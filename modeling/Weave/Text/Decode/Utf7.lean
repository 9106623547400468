import Weave.Text.Decode.Failure
import Weave.Text.Surrogate

/-! # UTF-7

UTF-7 writes text in ASCII. An ASCII byte other than `+` stands for its character. `+-`
stands for `+`, and `+` before any other base-64 digit opens a *shift sequence*: its
base-64 digits give six bits each, every sixteen bits a UTF-16 code unit, and a high
surrogate followed by a low one is one character; a high surrogate followed by anything
else stands alone. The sequence ends at the first byte that is no base-64 digit; a `-`
there is dropped, any other byte is read again. Bits left over at its end must be fewer
than six and all zero.
-/

namespace Weave.Utf7

def base64Value? (b : UInt8) : Option Nat :=
  if 0x41 ≤ b && b ≤ 0x5A then some (b.toNat - 0x41)
  else if 0x61 ≤ b && b ≤ 0x7A then some (b.toNat - 0x61 + 26)
  else if 0x30 ≤ b && b ≤ 0x39 then some (b.toNat - 0x30 + 52)
  else if b == 0x2B then some 62
  else if b == 0x2F then some 63
  else none

def isDirect (b : UInt8) : Bool :=
  b < 0x80 && b != 0x2B

/-- The state of a shift sequence: where its `+` stands, how many characters were
written before it, the bits not yet used and how many, and a high surrogate waiting for
its partner. -/
structure Shift where
  start : Nat
  written : Nat
  bits : Nat
  count : Nat
  high : Option Nat

def Shift.unfinished (s : Shift) : Bool :=
  s.high.isSome || s.count ≥ 6 || (s.count > 0 && s.bits != 0)

/-- Takes one more code unit into a shift sequence: the characters it completes and the
surrogate left waiting. -/
def takeUnit (high : Option Nat) (u : Nat) : List Char × Option Nat :=
  let lone := match high with
    | some h => [Text.ofCode h]
    | none => []
  match high with
  | some h =>
    if 0xDC00 ≤ u && u ≤ 0xDFFF then ([Char.ofNat (0x10000 + (h - 0xD800) * 1024 + (u - 0xDC00))], none)
    else if 0xD800 ≤ u && u ≤ 0xDBFF then (lone, some u)
    else (lone ++ [Text.ofCode u], none)
  | none =>
    if 0xD800 ≤ u && u ≤ 0xDBFF then ([], some u) else ([Text.ofCode u], none)

/-- Decodes UTF-7 bytes, `pos` of them used, `acc` the characters written, the last
first, and `shift` the open shift sequence if any; `final` when no bytes follow. -/
def decodeFrom (final : Bool) (all : List UInt8) (acc : List Char) (pos : Nat) :
    Option Shift → List UInt8 → Decoding
  | none, [] => .ok (acc.reverse, pos)
  | some s, [] =>
    if !final then .ok ((acc.drop (acc.length - s.written)).reverse, s.start)
    else if s.unfinished then
      .error (.invalid (.over "utf7" all s.start pos "unterminated shift sequence"))
    else .ok (acc.reverse, pos)
  | some s, b :: rest =>
    match base64Value? b with
    | some d =>
      let bits := s.bits * 64 + d
      let count := s.count + 6
      if count ≥ 16 then
        let u := bits / Nat.pow 2 (count - 16)
        let (cs, high) := takeUnit s.high u
        decodeFrom final all (cs.reverse ++ acc) (pos + 1)
          (some { s with bits := bits % Nat.pow 2 (count - 16), count := count - 16, high }) rest
      else decodeFrom final all acc (pos + 1) (some { s with bits, count }) rest
    | none =>
      if s.count ≥ 6 then
        .error (.invalid (.over "utf7" all s.start (pos + 1) "partial character in shift sequence"))
      else if s.count > 0 && s.bits != 0 then
        .error (.invalid (.over "utf7" all s.start (pos + 1)
          "non-zero padding bits in shift sequence"))
      else
        let acc := match s.high with
          | some h => if isDirect b then Text.ofCode h :: acc else acc
          | none => acc
        if b == 0x2D then decodeFrom final all acc (pos + 1) none rest
        else decodeFrom final all acc pos none (b :: rest)
  | none, b :: rest =>
    if b == 0x2B then
      match rest with
      | 0x2D :: rest' => decodeFrom final all ('+' :: acc) (pos + 2) none rest'
      | c :: tail =>
        if (base64Value? c).isSome then
          decodeFrom final all acc (pos + 1) (some ⟨pos, acc.length, 0, 0, none⟩) (c :: tail)
        else .error (.invalid (.over "utf7" all pos (pos + 2) "ill-formed sequence"))
      | [] => decodeFrom final all acc (pos + 1) (some ⟨pos, acc.length, 0, 0, none⟩) []
    else if isDirect b then decodeFrom final all (Char.ofNat b.toNat :: acc) (pos + 1) none rest
    else .error (.invalid (.over "utf7" all pos (pos + 1) "unexpected special character"))
termination_by shift bytes => (bytes.length, if shift.isSome then 1 else 0)

def decode (final : Bool) (bytes : List UInt8) : Decoding :=
  decodeFrom final bytes [] 0 none bytes

end Weave.Utf7
