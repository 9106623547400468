/-! # Binary64 numbers as exact rationals

A finite binary64 number is `± m · 2^q` with `m < 2^53`. Decoding the bits of a `Float`
gives that exact value, and from it the exact integer part, the test for an integral
value, and the nearest binary64 number to an integer (ties to the even significand),
which overflows when it would reach `2^1024`.
-/

namespace Weave.Binary

def twoPow (n : Nat) : Nat := Nat.pow 2 n

def tenPow (n : Nat) : Nat := Nat.pow 10 n

/-- The parts of a binary64 number. -/
inductive Parts where
  | finite (negative : Bool) (significand : Nat) (exponent : Int)
  | infinite (negative : Bool)
  | nan
deriving DecidableEq, Repr

def partsOfBits (bits : UInt64) : Parts :=
  let negative := bits >>> 63 == 1
  let biased := ((bits >>> 52) &&& 0x7ff).toNat
  let fraction := (bits &&& 0xfffffffffffff).toNat
  if biased == 0x7ff then
    if fraction == 0 then .infinite negative else .nan
  else if biased == 0 then .finite negative fraction (-1074)
  else .finite negative (fraction + twoPow 52) ((biased : Int) - 1075)

def parts (x : Float) : Parts :=
  partsOfBits x.toBits

def truncScaled (m : Nat) (q : Int) : Nat :=
  if 0 ≤ q then m * twoPow q.toNat else m / twoPow ((-q).toNat)

def truncInt? (x : Float) : Option Int :=
  match parts x with
  | .finite neg m q => some (if neg then -(truncScaled m q : Int) else truncScaled m q)
  | _ => none

def exactInt? (x : Float) : Option Int :=
  match parts x with
  | .finite neg m q =>
    if 0 ≤ q || m % twoPow ((-q).toNat) == 0 then
      some (if neg then -(truncScaled m q : Int) else truncScaled m q)
    else none
  | _ => none

def normalBits (m : Nat) (q : Int) : UInt64 :=
  (((q + 1075).toNat.toUInt64) <<< 52) ||| (m - twoPow 52).toUInt64

/-- The nearest binary64 number to a natural number: a significand of 53 bits and a
shift, ties going to the even significand. -/
def roundNat (n : Nat) : Nat × Nat :=
  let len := n.log2 + 1
  if len ≤ 53 then (n, 0)
  else
    let shift := len - 53
    let m := n / twoPow shift
    let rem := n % twoPow shift
    let half := twoPow (shift - 1)
    let m' := if rem > half || (rem == half && m % 2 == 1) then m + 1 else m
    if m' == twoPow 53 then (twoPow 52, shift + 1) else (m', shift)

def intParts? (n : Int) : Option Parts :=
  let (m, shift) := roundNat n.natAbs
  if m.log2 + 1 + shift > 1024 then none else some (.finite (decide (n < 0)) m shift)

theorem intParts?_of_lt {n : Nat} (h : n < twoPow 53) : intParts? n = some (.finite false n 0) := by
  have hLog : n.log2 < 53 := by
    by_cases hZero : n = 0
    · rw [hZero, Nat.log2_zero]
      omega
    · exact (Nat.log2_lt hZero).2 h
  have hRound : roundNat n = (n, 0) := by
    simp only [roundNat]
    rw [if_pos (by omega)]
  simp only [intParts?, Int.natAbs_natCast, hRound]
  rw [if_neg (by omega), decide_eq_false (by omega)]
  rfl

theorem significand_bounds {n s : Nat} (hZero : n ≠ 0) (hs : n.log2 + 1 - 53 = s + 1) :
    twoPow 52 ≤ n / twoPow (s + 1) ∧ n / twoPow (s + 1) < twoPow 53 := by
  simp only [twoPow, Nat.pow_eq]
  have hPos : 0 < 2 ^ (s + 1) := Nat.two_pow_pos _
  constructor
  · rw [Nat.le_div_iff_mul_le hPos, ← Nat.pow_add, show 52 + (s + 1) = n.log2 by omega]
    exact Nat.log2_self_le hZero
  · rw [Nat.div_lt_iff_lt_mul hPos, ← Nat.pow_add, show 53 + (s + 1) = n.log2 + 1 by omega]
    exact Nat.lt_log2_self

/-- A count below `2^1024 - 2^970`, the first that rounds up to `2^1024`, rounds to a
binary64 number of at most 1024 bits. -/
theorem roundNat_width_le {n : Nat} (h : n + twoPow 970 < twoPow 1024) :
    (roundNat n).1.log2 + 1 + (roundNat n).2 ≤ 1024 := by
  by_cases hZero : n = 0
  · subst hZero
    simp [roundNat]
  simp only [twoPow, Nat.pow_eq] at h
  have hLog : n.log2 < 1024 := by
    rw [Nat.log2_lt hZero]
    omega
  simp only [roundNat, twoPow, Nat.pow_eq]
  split
  · dsimp only
    omega
  rename_i hLen
  obtain ⟨s, hs⟩ : ∃ s, n.log2 + 1 - 53 = s + 1 := ⟨n.log2 - 53, by omega⟩
  rw [hs, Nat.add_sub_cancel]
  obtain ⟨hAbove, hBelow⟩ := significand_bounds hZero hs
  simp only [twoPow, Nat.pow_eq] at hAbove hBelow
  have hSplit := Nat.div_add_mod n (2 ^ (s + 1))
  obtain ⟨m, hm⟩ : ∃ m, n / 2 ^ (s + 1) = m := ⟨_, rfl⟩
  obtain ⟨rem, hrem⟩ : ∃ rem, n % 2 ^ (s + 1) = rem := ⟨_, rfl⟩
  simp only [hm, hrem] at hBelow hAbove hSplit ⊢
  split
  · rename_i hUp
    have hHalf : 2 ^ s ≤ rem := by
      simp only [Bool.or_eq_true, decide_eq_true_eq, Bool.and_eq_true, beq_iff_eq] at hUp
      omega
    split
    · rename_i hCarry
      simp only [beq_iff_eq] at hCarry
      rw [Nat.log2_two_pow]
      have hSmall : s < 970 := by
        refine Nat.lt_of_le_of_ne (by omega) fun hTop => ?_
        subst hTop
        omega
      omega
    · rename_i hNoCarry
      simp only [beq_iff_eq] at hNoCarry
      have hLog' : (m + 1).log2 < 53 := (Nat.log2_lt (by omega)).2 (by omega)
      show (m + 1).log2 + 1 + (s + 1) ≤ 1024
      omega
  · rename_i hDown
    have hLog' : m.log2 < 53 := (Nat.log2_lt (by omega)).2 hBelow
    rw [if_neg (by simp only [beq_iff_eq]; omega)]
    show m.log2 + 1 + (s + 1) ≤ 1024
    omega

theorem intParts?_finite_of_lt {n : Nat} (h : n + twoPow 970 < twoPow 1024) :
    ∃ m q, intParts? n = some (.finite false m q) := by
  have hFits := roundNat_width_le h
  simp only [intParts?, Int.natAbs_natCast]
  rw [if_neg (by omega), decide_eq_false (by omega)]
  exact ⟨_, _, rfl⟩

/-- The nearest binary64 number to an integer, or `none` when it is too large for the
format: its rounded magnitude reaches `2^1024`. -/
def ofInt? (n : Int) : Option Float :=
  if n = 0 then some 0
  else
    let (m, shift) := roundNat n.natAbs
    if m.log2 + 1 + shift > 1024 then none
    else
      let len := m.log2 + 1
      let m53 := m * twoPow (53 - len)
      let q : Int := (shift : Int) - (53 - len : Nat)
      let x := Float.ofBits (normalBits m53 q)
      some (if n < 0 then -x else x)

end Weave.Binary
