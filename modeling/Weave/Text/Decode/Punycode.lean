import Weave.Text.Decode.Failure
import Weave.Text.Surrogate

/-! # Punycode

Punycode writes a text in ASCII letters, digits and hyphens: the text's ASCII characters
in order, then, after the last hyphen, the other characters as a run of variable-length
integers in base 36, each telling how far to move through the text and which character
to insert there. A digit below a threshold ends an integer; the threshold of the `j`-th
digit is `36 (j + 1) - bias`, kept between 1 and 26, and the bias adapts after every
integer to the size of the one before.
-/

namespace Weave.Punycode

def threshold (j bias : Nat) : Nat :=
  if 36 * (j + 1) ≤ bias then 1 else if bias + 26 ≤ 36 * (j + 1) then 26 else 36 * (j + 1) - bias

theorem one_le_threshold (j bias : Nat) : 1 ≤ threshold j bias := by
  unfold threshold
  split
  · omega
  · split <;> omega

theorem threshold_le (j bias : Nat) : threshold j bias ≤ 26 := by
  unfold threshold
  split
  · omega
  · split <;> omega

def shrink (delta divisions : Nat) : Nat × Nat :=
  if delta > 455 then shrink (delta / 35) (divisions + 36) else (delta, divisions)
termination_by delta
decreasing_by exact Nat.div_lt_self (by omega) (by omega)

def adapt (delta : Nat) (first : Bool) (size : Nat) : Nat :=
  let delta := if first then delta / 700 else delta / 2
  let delta := delta + delta / size
  let (delta, divisions) := shrink delta 0
  divisions + 36 * delta / (delta + 38)

/-- How an integer at the head of the digits reads. -/
inductive Integer where
  | value (v : Nat) (length : Nat)
  | cut
  | notDigit (c : Char)

def digitValue? (c : Char) : Option Nat :=
  if 'A' ≤ c && c ≤ 'Z' then some (c.toNat - 'A'.toNat)
  else if '0' ≤ c && c ≤ '9' then some (c.toNat - '0'.toNat + 26)
  else none

/-- Reads an integer under a bias: `j` digits read, `w` the weight of the next, `acc`
the value so far. -/
def readInteger (bias : Nat) (j w acc : Nat) : List Char → Integer
  | [] => .cut
  | c :: rest =>
    match digitValue? c with
    | none => .notDigit c
    | some d =>
      let t := threshold j bias
      let acc := acc + d * w
      if d < t then .value acc (j + 1)
      else match readInteger bias (j + 1) (w * (36 - t)) acc rest with
        | .value v n => .value v n
        | other => other

def lowerHex (n : Nat) : String :=
  String.ofList (Nat.toDigits 16 n)

/-- Inserts the characters the integers `digits` code into `base`: `code` is the last code
point inserted, `pos` the place of the last insertion, `first` whether none was yet. Each
integer takes at least one digit, so `fuel` of the digits' length suffices. -/
def insertAll (bias code : Nat) (pos : Int) (first : Bool) (base : List Char) :
    Nat → List Char → Except DecodeFailure (List Char)
  | _, [] => .ok base
  | 0, _ :: _ => .ok base
  | fuel + 1, c :: rest =>
    match readInteger bias 0 1 0 (c :: rest) with
    | .cut => .error (.refused "incomplete punicode string")
    | .notDigit d => .error (.refused ("Invalid extended code point '" ++ d.toString ++ "'"))
    | .value delta n =>
      let pos := pos + delta + 1
      let size := base.length + 1
      let code := code + (pos / size).toNat
      if code > 0x10FFFF then .error (.refused ("Invalid character U+" ++ lowerHex code))
      else
        let at_ := (pos % size).toNat
        let base := base.take at_ ++ Text.ofCode code :: base.drop at_
        let bias := adapt delta first base.length
        insertAll bias code at_ false base fuel ((c :: rest).drop n)

def asciiChars (offset : Nat) (bytes : List UInt8) : Except DecodeFailure (List Char) :=
  match bytes.findIdx? (· ≥ 0x80) with
  | some i =>
    .error (.invalid ⟨"ascii", bytes.getD i 0, offset + i, offset + i + 1, "ordinal not in range(128)"⟩)
  | none => .ok (bytes.map fun b => Char.ofNat b.toNat)

/-- Decodes a whole Punycode text. -/
def decodeText (bytes : List UInt8) : Except DecodeFailure (List Char) := do
  let cut := bytes.length - 1 - ((bytes.reverse.idxOf? 0x2D).getD bytes.length)
  let (base, extended) ← match bytes.reverse.idxOf? 0x2D with
    | none => do
      let e ← asciiChars 0 bytes
      pure ([], e)
    | some _ => do
      let b ← asciiChars 0 (bytes.take cut)
      let e ← asciiChars 0 (bytes.drop (cut + 1))
      pure (b, e)
  insertAll 72 0x80 (-1) true base extended.length (extended.map Char.toUpper)

def decode (bytes : List UInt8) : Decoding :=
  (decodeText bytes).map fun cs => (cs, bytes.length)

def codeOf (c : Char) : Nat :=
  (Text.surrogate? c).getD c.toNat

def digitChars : List Char :=
  "abcdefghijklmnopqrstuvwxyz0123456789".toList

def integerDigits (bias j n : Nat) : List Char :=
  let t := threshold j bias
  if n < t then [digitChars.getD n 'a']
  else digitChars.getD (t + (n - t) % (36 - t)) 'a' :: integerDigits bias (j + 1) ((n - t) / (36 - t))
termination_by n
decreasing_by
  have h1 := one_le_threshold j bias
  have h2 : (n - threshold j bias) / (36 - threshold j bias) ≤ n - threshold j bias :=
    Nat.div_le_self _ _
  omega

/-- The integers that code the insertion of the characters of `text` at or above 0x80,
taking each such code point in increasing order. -/
def insertionDeltas (text : List Char) : List Nat :=
  let codes := text.map codeOf
  let wide := (codes.filter (· ≥ 0x80)).mergeSort (· ≤ ·) |>.eraseDups
  let step (acc : List Nat × Nat × Int) (code : Nat) : List Nat × Nat × Int :=
    let (out, oldCode, oldIndex) := acc
    let below := (codes.filter (· < code)).length
    let delta : Int := (below + 1) * ((code : Int) - oldCode)
    let walk := codes.foldl (fun (st : List Nat × Int × Int × Int) c =>
        let (out, index, delta, oldIndex) := st
        if c == code then
          let index := index + 1
          let delta := delta + (index - oldIndex)
          (out ++ [(delta - 1).toNat], index, 0, index)
        else if c < code then (out, index + 1, delta, oldIndex)
        else st) (out, -1, delta, oldIndex)
    let (out, _, _, oldIndex) := walk
    (out, code, oldIndex)
  (wide.foldl step ([], 0x80, -1)).1

def encode (text : List Char) : List Char :=
  let base := text.filter fun c => codeOf c < 0x80
  let deltas := insertionDeltas text
  let digits := (deltas.zipIdx.foldl (fun (acc : List Char × Nat) (delta, i) =>
      let (out, bias) := acc
      (out ++ integerDigits bias 0 delta, adapt delta (i == 0) (base.length + i + 1)))
    ([], 72)).1
  if base.isEmpty then digits else base ++ '-' :: digits

end Weave.Punycode
