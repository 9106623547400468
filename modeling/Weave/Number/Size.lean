import Weave.Fault
import Weave.Number.Decimal

/-! # Byte sizes

A byte count is shown in the largest of the units B, KB, MB and GB (powers of 1024) that
it reaches, GB being the last, with two decimals from which trailing zeros and then a
bare point are dropped. The count is first rounded to binary64; a count too large for the
format has no size. The size is then divided by 1024 while it reaches 1024. A binary64
number of at least 1024, divided by 1024, only loses ten from its exponent, so each
division is exact and the size is kept as its exact parts `±m · 2^q`.
-/

namespace Weave

open Binary

def sizeUnits : List String :=
  ["B", "KB", "MB", "GB"]

def dropTrailingZeros (s : String) : String :=
  let cs := (s.toList.reverse.dropWhile (· == '0')).dropWhile (· == '.')
  String.ofList cs.reverse

def reaches1024 (neg : Bool) (m : Nat) (q : Int) : Bool :=
  !neg && 1024 * twoPow (-q).toNat ≤ m * twoPow q.toNat

def scaleSize (neg : Bool) (m : Nat) : Nat → Int → Nat → Int × Nat
  | 0, q, order => (q, order)
  | fuel + 1, q, order =>
    if reaches1024 neg m q && order + 1 < sizeUnits.length then
      scaleSize neg m fuel (q - 10) (order + 1)
    else (q, order)

def byteSize (n : Int) : Except Fault String :=
  match intParts? n with
  | some (.finite neg m q) =>
    let (q', order) := scaleSize neg m sizeUnits.length q 0
    .ok (dropTrailingZeros (Decimal.fixed neg m q' 2) ++ " " ++ sizeUnits.getD order "B")
  | _ => .error .tooLargeForFloat

end Weave
