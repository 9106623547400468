import Weave.Text.Decode.Punycode
import Weave.Text.Stringprep.Nameprep
import Weave.Data.Literal

/-! # Internationalized domain names

The IDNA encoding reads ASCII bytes as a domain name: labels between points, each label
whose text starts with the prefix `xn--` read as Punycode. Such a label must come back the
same when written again, as `ToASCII` writes a label: an ASCII text as it is, and any other
after preparing it as a name (`nameprep`), as the prefix followed by its Punycode. A label
written back must have from 1 to 63 characters.
-/

namespace Weave.Idna

def acePrefix : List Char := ['x', 'n', '-', '-']

def asciiLower (cs : List Char) : List Char :=
  cs.map fun c => if 'A' ≤ c && c ≤ 'Z' then Char.ofNat (c.toNat + 32) else c

def asciiBytes (cs : List Char) : List UInt8 :=
  cs.map fun c => c.toNat.toUInt8

def sized (label : List Char) : Except DecodeFailure (List Char) :=
  if 0 < label.length && label.length < 64 then .ok label
  else .error (.refused "label empty or too long")

def prepMessage : Text.Stringprep.PrepError → String
  | .prohibited c => "Invalid character " ++ quoteText (String.singleton c)
  | .mixedDirections => "Violation of BIDI requirement 2"
  | .unanchoredDirection => "Violation of BIDI requirement 3"

/-- A label as `ToASCII` writes it. -/
def toAscii (label : List Char) : Except DecodeFailure (List Char) :=
  if label.all (·.toNat < 0x80) then sized label
  else
    match Text.Stringprep.nameprep label with
    | .error e => .error (.refused (prepMessage e))
    | .ok prepared =>
      if prepared.all (·.toNat < 0x80) then sized prepared
      else if prepared.take 4 == acePrefix then .error (.refused "Label starts with ACE prefix")
      else sized (acePrefix ++ Punycode.encode prepared)

/-- The text of one label of ASCII characters. -/
def toUnicode (label : List Char) : Except DecodeFailure (List Char) :=
  if label.take 4 != acePrefix then .ok label
  else
    match Punycode.decodeText (asciiBytes (label.drop 4)) with
    | .error (.refused reason) =>
      .error (.refused ("decoding with 'punycode' codec failed (UnicodeError: " ++ reason ++ ")"))
    | .error e => .error e
    | .ok text => do
      let back ← toAscii text
      if asciiLower label != back then
        .error (.refused ("('IDNA does not round-trip', " ++ quoteBytes (asciiBytes label) ++
          ", " ++ quoteBytes (asciiBytes back) ++ ")"))
      else .ok text

def splitLabels (cs : List Char) : List (List Char) :=
  (String.ofList cs).splitOn "." |>.map String.toList

def usedBy (labels : List (List Char)) : Nat :=
  labels.foldl (fun size l => (if size == 0 then 0 else size + 1) + l.length) 0

/-- One decoding call; `final` when no bytes follow. -/
def decode (final : Bool) (bytes : List UInt8) : Decoding := do
  if bytes.isEmpty then return ([], 0)
  let text ← Punycode.asciiChars 0 bytes
  let labels := splitLabels text
  let (labels, point) :=
    if labels.getLast? == some [] then (labels.dropLast, true)
    else if !final then (labels.dropLast, labels.length > 1)
    else (labels, false)
  let decoded ← labels.mapM toUnicode
  let out := (decoded.intersperse ['.']).flatten ++ (if point then ['.'] else [])
  return (out, usedBy labels + (if point then 1 else 0))

end Weave.Idna
