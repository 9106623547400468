import Weave.Number.Binary

/-! # Decimal text of binary64 numbers

Two ways to write a binary64 number in decimal. With fixed places, the exact value is
rounded to the nearest multiple of `10^-places`, a tie going to the even last digit.
Shortest, the digits are the fewest that read back as the same number: for 1, 2, … 17
digits the two neighbours of the value on that decimal grid are tested against the
interval of reals that round to it, the first grid with a hit wins, and of two hits the
nearer one (the even one at a tie). `DecimalStyle` then lays the digits out.
-/

namespace Weave.Decimal

open Weave.Binary

def roundHalfEven (num den : Nat) : Nat :=
  let q := num / den
  let r := num % den
  if 2 * r > den || (2 * r == den && q % 2 == 1) then q + 1 else q

def scale (k j : Int) : Nat × Nat :=
  (tenPow k.toNat * twoPow j.toNat, tenPow ((-k).toNat) * twoPow ((-j).toNat))

def fixedUnits (m : Nat) (q : Int) (places : Nat) : Nat :=
  let (num, den) := scale places q
  roundHalfEven (m * num) den

def unitsText (units places : Nat) : String :=
  let whole := toString (units / tenPow places)
  if places = 0 then whole
  else
    let frac := toString (units % tenPow places)
    whole ++ "." ++ String.ofList (List.replicate (places - frac.length) '0') ++ frac

def fixed (neg : Bool) (m : Nat) (q : Int) (places : Nat) : String :=
  (if neg then "-" else "") ++ unitsText (fixedUnits m q places) places

def compareScaled (a : Nat) (k : Int) (b : Nat) (p : Int) : Ordering :=
  compare (a * tenPow k.toNat * twoPow ((-p).toNat)) (b * twoPow p.toNat * tenPow ((-k).toNat))

def decimalExponent (m : Nat) (q : Int) : Nat → Int → Int
  | 0, e => e
  | fuel + 1, e =>
    if compareScaled 1 e m q == .gt then decimalExponent m q fuel (e - 1)
    else if compareScaled 1 (e + 1) m q != .gt then decimalExponent m q fuel (e + 1)
    else e

/-- The shortest decimal digits of the positive number `m · 2^q` whose rounding interval
has lower end `m · 2^q - lowGap · 2^(q-2)`, upper end `m · 2^q + 2 · 2^(q-2)`, and ends
that count as inside when `m` is even: the digits with the point before the first, and
the exponent of the point. -/
def shortest (m : Nat) (q : Int) (lowGap : Nat) : List Nat × Int :=
  let e := decimalExponent m q 800 (((m.log2 : Int) + q) * 3 / 10)
  let inside (c : Nat) (k : Int) : Bool :=
    let lo := compareScaled c k (4 * m - lowGap) (q - 2)
    let hi := compareScaled c k (4 * m + 2) (q - 2)
    (lo == .gt || (lo == .eq && m % 2 == 0)) && (hi == .lt || (hi == .eq && m % 2 == 0))
  let rec go : Nat → Nat → List Nat × Int
    | 0, _ => ([], 0)
    | fuel + 1, d =>
      let k : Int := e - d + 1
      let (num, den) := scale (-k) q
      let low := m * num / den
      let high := low + 1
      let lowIn := inside low k
      let highIn := inside high k
      let pick : Option Nat :=
        if lowIn && highIn then
          match compareScaled (2 * low + 1) k (2 * m) q with
          | .gt => some low
          | .lt => some high
          | .eq => some (if low % 2 == 0 then low else high)
        else if lowIn then some low
        else if highIn then some high
        else none
      match pick with
      | some c =>
        let digits := (Nat.toDigits 10 c).map (fun ch => ch.toNat - '0'.toNat)
        let trimmed := (digits.reverse.dropWhile (· == 0)).reverse
        (trimmed, k + digits.length)
      | none => go fuel (d + 1)
  go 17 1

def shortestOf (m : Nat) (q : Int) : List Nat × Int :=
  if m = 0 then ([], 0)
  else
    let lowGap := if m == twoPow 52 && q > -1074 then 1 else 2
    shortest m q lowGap

/-- How a number's shortest digits are laid out. -/
structure DecimalStyle where
  lowest : Int
  highest : Int
  keepPointZero : Bool
  exponentWidth : Nat
  infinity : String
  notANumber : String

/-- Writes a number's shortest digits in a style. -/
def DecimalStyle.render (st : DecimalStyle) (x : Float) : String :=
  match parts x with
  | .nan => st.notANumber
  | .infinite neg => (if neg then "-" else "") ++ st.infinity
  | .finite neg m q =>
    let sign := if neg then "-" else ""
    if m = 0 then sign ++ (if st.keepPointZero then "0.0" else "0")
    else
      let (ds, point) := shortestOf m q
      let text := String.ofList (ds.map fun d => Char.ofNat (d + '0'.toNat))
      let n := ds.length
      if st.lowest < point && point ≤ st.highest then
        if point ≤ 0 then sign ++ "0." ++ String.ofList (List.replicate (-point).toNat '0') ++ text
        else if point.toNat ≥ n then
          sign ++ text ++ String.ofList (List.replicate (point.toNat - n) '0') ++
            (if st.keepPointZero then ".0" else "")
        else sign ++ String.ofList (text.toList.take point.toNat) ++ "." ++
          String.ofList (text.toList.drop point.toNat)
      else
        let exp := point - 1
        let expDigits := toString exp.natAbs
        let padded := String.ofList (List.replicate (st.exponentWidth - expDigits.length) '0') ++
          expDigits
        let mantissa := if n = 1 then text
          else String.ofList (text.toList.take 1) ++ "." ++ String.ofList (text.toList.drop 1)
        sign ++ mantissa ++ "e" ++ (if exp < 0 then "-" else "+") ++ padded

end Weave.Decimal
