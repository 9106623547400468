import Weave.Text.Decode.Failure
import Weave.Text.CharName
import Weave.Text.Surrogate

/-! # Escaped text

Two encodings write text as ASCII with backslash escapes; every byte that is no escape
stands for the character of its value.
-/

namespace Weave.Escape

/-- How an escape at the head of the bytes reads. -/
inductive Read where
  | chars (cs : List Char) (length : Nat)
  | cut (reason : String)
  | invalid (length : Nat) (reason : String)

def hexValue? (b : UInt8) : Option Nat :=
  if 0x30 ≤ b && b ≤ 0x39 then some (b.toNat - 0x30)
  else if 0x61 ≤ b && b ≤ 0x66 then some (b.toNat - 0x61 + 10)
  else if 0x41 ≤ b && b ≤ 0x46 then some (b.toNat - 0x41 + 10)
  else none

/-- How a run of `count` hexadecimal digits at the head of the bytes reads. -/
inductive HexRun where
  | value (v : Nat)
  | short
  | bad (digits : Nat)

def hexRun (seen acc : Nat) : Nat → List UInt8 → HexRun
  | 0, _ => .value acc
  | _ + 1, [] => .short
  | n + 1, b :: rest =>
    match hexValue? b with
    | some d => hexRun (seen + 1) (acc * 16 + d) n rest
    | none => .bad seen

def hexEscape (count : Nat) (reason tooLarge : String) (rest : List UInt8) : Read :=
  match hexRun 0 0 count rest with
  | .value v =>
    if v ≥ 0x110000 then .invalid (2 + count) tooLarge
    else .chars [Text.ofCode v] (2 + count)
  | .short => .cut reason
  | .bad n => .invalid (2 + n) reason

def byteChar (b : UInt8) : Char :=
  Char.ofNat b.toNat

def isOctal (b : UInt8) : Bool :=
  0x30 ≤ b && b ≤ 0x37

/-- The escape `\N` with what follows it. -/
def namedEscape (rest : List UInt8) : Read :=
  let malformed := "malformed \\N character escape"
  match rest with
  | [] => .cut malformed
  | 0x7B :: body =>
    match body.idxOf? 0x7D with
    | none => .cut malformed
    | some 0 => .invalid 3 malformed
    | some n =>
      let name := String.ofList ((body.take n).map byteChar)
      match Text.codeOfName? name with
      | some c => .chars [Text.ofCode c] (n + 4)
      | none => .invalid (n + 4) "unknown Unicode character name"
  | _ => .invalid 2 malformed

/-- Reads the escape after a backslash, given the bytes after it. -/
def readEscape : List UInt8 → Read
  | [] => .cut "\\ at end of string"
  | b :: rest =>
    let simple : List (UInt8 × Char) :=
      [(0x5C, '\\'), (0x27, Char.ofNat 0x27), (0x22, '"'), (0x62, '\x08'), (0x66, '\x0c'), (0x74, '\t'),
       (0x6E, '\n'), (0x72, '\r'), (0x76, '\x0b'), (0x61, '\x07')]
    if b == 0x0A then .chars [] 2
    else if let some c := simple.lookup b then .chars [c] 2
    else if isOctal b then
      let more := (rest.take 2).takeWhile isOctal
      let v := (b :: more).foldl (fun acc d => acc * 8 + (d.toNat - 0x30)) 0
      .chars [Char.ofNat v] (2 + more.length)
    else if b == 0x78 then hexEscape 2 "truncated \\xXX escape" "illegal Unicode character" rest
    else if b == 0x75 then hexEscape 4 "truncated \\uXXXX escape" "illegal Unicode character" rest
    else if b == 0x55 then
      hexEscape 8 "truncated \\UXXXXXXXX escape" "illegal Unicode character" rest
    else if b == 0x4E then namedEscape rest
    else .chars ['\\', byteChar b] 2

def readRawEscape (final : Bool) : List UInt8 → Read
  | [] => if final then .chars ['\\'] 1 else .cut ""
  | b :: rest =>
    if b == 0x75 then hexEscape 4 "truncated \\uXXXX escape" "\\Uxxxxxxxx out of range" rest
    else if b == 0x55 then
      hexEscape 8 "truncated \\UXXXXXXXX escape" "\\Uxxxxxxxx out of range" rest
    else .chars ['\\', byteChar b] 2

/-- Decodes escaped bytes with the reading of an escape `escape`, `pos` bytes used
already; `final` when no bytes follow. -/
def decodeFrom (codec : String) (escape : List UInt8 → Read) (final : Bool) (all : List UInt8)
    (acc : List Char) (pos : Nat) (bytes : List UInt8) : Decoding :=
  match _h : bytes with
  | [] => .ok (acc.reverse, pos)
  | b :: rest =>
    if b != 0x5C then decodeFrom codec escape final all (byteChar b :: acc) (pos + 1) rest
    else
      match escape rest with
      | .chars cs n =>
        if _hn : 0 < n then
          decodeFrom codec escape final all (cs.reverse ++ acc) (pos + n) (bytes.drop n)
        else .ok (acc.reverse, pos)
      | .cut reason =>
        if final then .error (.invalid (.over codec all pos (pos + bytes.length) reason))
        else .ok (acc.reverse, pos)
      | .invalid n reason => .error (.invalid (.over codec all pos (pos + n) reason))
termination_by bytes.length
decreasing_by all_goals simp [_h] <;> omega

def decode (final : Bool) (bytes : List UInt8) : Decoding :=
  decodeFrom "unicodeescape" readEscape final bytes [] 0 bytes

def decodeRaw (final : Bool) (bytes : List UInt8) : Decoding :=
  decodeFrom "rawunicodeescape" (readRawEscape final) final bytes [] 0 bytes

end Weave.Escape
