import Weave.Text.Codec

/-! # Base64

Base64 text is read four characters to three bytes. Characters outside the alphabet are
passed over. Padding (`=`) ends the data once it completes a group of four and is passed
over before that, so anything after the padding is left unread. Reading fails when the
data characters leave one over a multiple of four, which no encoding produces, and when
the last group is short of its padding.
-/

namespace Weave.Base64

/-- Why base64 text cannot be read. -/
inductive Base64Error where
  | oneOver (count : Nat)
  | padding
deriving Repr, DecidableEq

def Base64Error.message : Base64Error → String
  | .oneOver n => "Invalid base64-encoded string: number of data characters (" ++ toString n ++
      ") cannot be 1 more than a multiple of 4"
  | .padding => "Incorrect padding"

def sextet? (c : Char) : Option Nat :=
  if 'A' ≤ c && c ≤ 'Z' then some (c.toNat - 'A'.toNat)
  else if 'a' ≤ c && c ≤ 'z' then some (c.toNat - 'a'.toNat + 26)
  else if '0' ≤ c && c ≤ '9' then some (c.toNat - '0'.toNat + 52)
  else if c == '+' then some 62
  else if c == '/' then some 63
  else none

/-- Where reading stands: the place in the group of four, the bits carried to the next
byte, the padding characters counted, and the bytes so far, the last first. -/
structure Reading where
  place : Nat
  carry : Nat
  pads : Nat
  out : List UInt8

def Reading.finish (r : Reading) : Except Base64Error (List UInt8) :=
  match r.place with
  | 0 => .ok r.out.reverse
  | 1 => .error (.oneOver (r.out.length / 3 * 4 + 1))
  | _ => .error .padding

def Reading.take (r : Reading) (v : Nat) : Reading :=
  match r.place with
  | 0 => ⟨1, v, 0, r.out⟩
  | 1 => ⟨2, v % 16, 0, (r.carry * 4 + v / 16).toUInt8 :: r.out⟩
  | 2 => ⟨3, v % 4, 0, (r.carry * 16 + v / 4).toUInt8 :: r.out⟩
  | _ => ⟨0, 0, 0, (r.carry * 64 + v).toUInt8 :: r.out⟩

/-- Reads the rest of a text. -/
def readFrom (r : Reading) : List Char → Except Base64Error (List UInt8)
  | [] => r.finish
  | c :: rest =>
    if c == '=' then
      if r.place ≥ 2 && r.place + r.pads + 1 ≥ 4 then .ok r.out.reverse
      else readFrom { r with pads := if r.place ≥ 2 then r.pads + 1 else r.pads } rest
    else
      match sextet? c with
      | some v => readFrom (r.take v) rest
      | none => readFrom r rest

def decode (s : String) : Except Base64Error (List UInt8) :=
  readFrom ⟨0, 0, 0, []⟩ s.toList

end Weave.Base64
