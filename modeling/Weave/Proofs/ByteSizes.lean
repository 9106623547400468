import Mathlib
import Weave.Number.Size

/-! # A byte count in its unit

A count below `2^53` is a binary64 number exactly, and each division by 1024 is exact, so the
size shown is the rational `n / 1024^k` in the largest unit `k` of B, KB, MB and GB that the
count reaches, rounded to hundredths with a tie going to the even hundredth, and written
without trailing zeros or a bare point (`byteSize_in_unit`).
-/

namespace Weave

open Binary Decimal

/-! ## Rounding to the nearest integer -/

def RoundsHalfEven (x : ℚ) (u : ℕ) : Prop :=
  |x - u| < 1 / 2 ∨ (|x - u| = 1 / 2 ∧ Even u)

theorem RoundsHalfEven.le_of_lt {x : ℚ} {u b : ℕ} (h : RoundsHalfEven x u) (hx : x < b) :
    u ≤ b := by
  have hNear : |x - u| ≤ 1 / 2 := by
    rcases h with h | ⟨h, -⟩
    · exact h.le
    · exact h.le
  have hu : (u : ℚ) < b + 1 := by linarith [(abs_le.1 hNear).1]
  exact Nat.lt_succ_iff.1 (by exact_mod_cast hu)

theorem div_eq_quotient_add (num den : ℕ) (hden : 0 < den) :
    (num : ℚ) / den = (num / den : ℕ) + ((num % den : ℕ) : ℚ) / den := by
  have hden' : (den : ℚ) ≠ 0 := by exact_mod_cast hden.ne'
  field_simp
  exact_mod_cast (Nat.div_add_mod num den).symm

theorem roundHalfEven_rounds (num den : ℕ) (hden : 0 < den) :
    RoundsHalfEven ((num : ℚ) / den) (roundHalfEven num den) := by
  have hden' : (0 : ℚ) < den := by exact_mod_cast hden
  have hr : num % den < den := Nat.mod_lt _ hden
  have hx := div_eq_quotient_add num den hden
  unfold roundHalfEven
  generalize num / den = q at hx ⊢
  generalize num % den = r at hx hr ⊢
  rw [hx]
  have hBelow : (r : ℚ) / den < 1 := (div_lt_one hden').2 (by exact_mod_cast hr)
  have hHalf : (r : ℚ) / den = 1 / 2 ↔ 2 * r = den := by
    rw [div_eq_iff hden'.ne']
    constructor <;> intro h
    · have : (2 * r : ℚ) = den := by linarith
      exact_mod_cast this
    · have : (2 * r : ℚ) = den := by exact_mod_cast h
      linarith
  simp only
  by_cases hUp : 2 * r > den
  · rw [if_pos (by simp [hUp])]
    left
    have hAbove : 1 / 2 < (r : ℚ) / den := by
      rw [lt_div_iff₀ hden']
      have : (den : ℚ) < 2 * r := by exact_mod_cast hUp
      linarith
    rw [abs_lt]
    push_cast
    constructor <;> linarith
  · by_cases hTie : 2 * r = den ∧ q % 2 = 1
    · rw [if_pos (by simp [hTie.1, hTie.2])]
      right
      refine ⟨?_, Nat.even_add_one.2 (Nat.not_even_iff_odd.2 (Nat.odd_iff.2 hTie.2))⟩
      rw [hHalf.2 hTie.1]
      push_cast
      norm_num
    · rw [if_neg (by simp_all)]
      have hNonneg : 0 ≤ (r : ℚ) / den := by positivity
      rw [RoundsHalfEven, add_sub_cancel_left, abs_of_nonneg hNonneg]
      by_cases hEq : 2 * r = den
      · right
        exact ⟨hHalf.2 hEq, Nat.even_iff.2 (by omega)⟩
      · left
        rw [div_lt_iff₀ hden']
        have : (2 * r : ℚ) < den := by exact_mod_cast (show 2 * r < den by omega)
        linarith

/-! ## Two decimals without trailing zeros -/

/-- A count of hundredths written with at most two decimals: trailing zeros of the decimals
are dropped, and the point with them when none is left. -/
def hundredthsText (u : ℕ) : String :=
  if u % 10 ≠ 0 then toString (u / 100) ++ "." ++ toString (u / 10 % 10) ++ toString (u % 10)
  else if u / 10 % 10 ≠ 0 then toString (u / 100) ++ "." ++ toString (u / 10 % 10)
  else toString (u / 100)

theorem padded_toString (r : ℕ) (hr : r < 100) :
    String.ofList (List.replicate (2 - (toString r).length) '0') ++ toString r =
      String.ofList [(r / 10).digitChar, (r % 10).digitChar] := by
  rw [Nat.toString_eq_ofList_toDigits]
  by_cases hSmall : r < 10
  · rw [Nat.toDigits_of_lt_base hSmall]
    have hTens : r / 10 = 0 := by omega
    have hUnits : r % 10 = r := by omega
    simp [hTens, hUnits]
    rfl
  · rw [Nat.toDigits_of_base_le (by norm_num) (by omega), Nat.toDigits_of_lt_base (by omega)]
    simp

theorem unitsText_two (u : ℕ) :
    unitsText u 2 = toString (u / 100) ++ "." ++
      String.ofList [(u / 10 % 10).digitChar, (u % 10).digitChar] := by
  have hTens : u % 100 / 10 = u / 10 % 10 := by omega
  have hUnits : u % 100 % 10 = u % 10 := by omega
  simp only [unitsText, show tenPow 2 = 100 from rfl]
  rw [if_neg (by norm_num), String.append_assoc, padded_toString _ (Nat.mod_lt _ (by norm_num)),
    hTens, hUnits]

theorem dot_not_mem_toString (n : ℕ) : '.' ∉ (toString n).toList := by
  intro h
  rw [Nat.toString_eq_ofList_toDigits, String.toList_ofList] at h
  simpa using Nat.isDigit_of_mem_toDigits (by norm_num) (by norm_num) h

theorem dropTrailingZeros_decimals (w : String) (hw : '.' ∉ w.toList) {a b : ℕ} (ha : a < 10)
    (hb : b < 10) :
    dropTrailingZeros (w ++ "." ++ String.ofList [a.digitChar, b.digitChar]) =
      if b ≠ 0 then w ++ "." ++ toString a ++ toString b
      else if a ≠ 0 then w ++ "." ++ toString a
      else w := by
  have hKeep : (w.toList.reverse.dropWhile (· == '.')) = w.toList.reverse := by
    rw [List.dropWhile_eq_self_iff]
    intro hl hDot
    apply hw
    rw [← beq_iff_eq.1 hDot]
    exact List.mem_reverse.1 (List.getElem_mem hl)
  apply String.toList_injective
  simp only [dropTrailingZeros, String.toList_append, String.toList_ofList, Nat.toString_eq_repr,
    Nat.repr_of_lt ha, Nat.repr_of_lt hb]
  by_cases hb0 : b = 0 <;> by_cases ha0 : a = 0 <;> simp [hb0, ha0, hKeep]

theorem dropTrailingZeros_unitsText (u : ℕ) :
    dropTrailingZeros (unitsText u 2) = hundredthsText u := by
  rw [unitsText_two, dropTrailingZeros_decimals _ (dot_not_mem_toString _)
    (Nat.mod_lt _ (by norm_num)) (Nat.mod_lt _ (by norm_num)), hundredthsText]

/-! ## The unit -/

theorem reaches1024_scaled (m j : ℕ) :
    reaches1024 false m (-(10 * j : ℤ)) = decide (1024 ^ (j + 1) ≤ m) := by
  have hExp : (-(-(10 * j : ℤ))).toNat = 10 * j := by omega
  have hNeg : (-(10 * j : ℤ)).toNat = 0 := by omega
  have hPow : 1024 * twoPow (10 * j) = 1024 ^ (j + 1) := by
    rw [twoPow, Nat.pow_eq, pow_succ', pow_mul]
    norm_num
  have hOne : twoPow 0 = 1 := rfl
  simp only [reaches1024, hExp, hNeg, hPow, hOne, mul_one, Bool.not_false, Bool.true_and]

theorem scaleSize_largest_unit (m : ℕ) (fuel j : ℕ) (hj : j ≤ 3) (hFuel : 3 ≤ j + fuel)
    (hReach : j = 0 ∨ 1024 ^ j ≤ m) :
    ∃ k : ℕ, scaleSize false m fuel (-(10 * j : ℤ)) j = (-(10 * k : ℤ), k) ∧ k ≤ 3 ∧
      (k = 0 ∨ 1024 ^ k ≤ m) ∧ (k = 3 ∨ m < 1024 ^ (k + 1)) := by
  induction fuel generalizing j with
  | zero => exact ⟨j, rfl, hj, hReach, .inl (by omega)⟩
  | succ fuel ih =>
    simp only [scaleSize]
    by_cases hStep : 1024 ^ (j + 1) ≤ m ∧ j < 3
    · rw [if_pos (by simp [reaches1024_scaled, hStep.1, sizeUnits]; omega)]
      have hNext : (-(10 * j : ℤ)) - 10 = -(10 * ((j + 1 : ℕ) : ℤ)) := by push_cast; ring
      rw [hNext]
      exact ih (j + 1) (by omega) (by omega) (.inr hStep.1)
    · rw [if_neg (by simp [reaches1024_scaled, sizeUnits]; omega)]
      refine ⟨j, rfl, hj, hReach, ?_⟩
      omega

theorem fixedUnits_scaled (m k : ℕ) :
    fixedUnits m (-(10 * k : ℤ)) 2 = roundHalfEven (m * 100) (1024 ^ k) := by
  have hExp : (-(-(10 * k : ℤ))).toNat = 10 * k := by omega
  have hNeg : (-(10 * k : ℤ)).toNat = 0 := by omega
  have hDen : twoPow (10 * k) = 1024 ^ k := by
    rw [twoPow, Nat.pow_eq, pow_mul]
    norm_num
  have hNum : tenPow ((2 : ℕ) : ℤ).toNat * twoPow 0 = 100 := rfl
  have hOne : tenPow (-((2 : ℕ) : ℤ)).toNat = 1 := rfl
  simp only [fixedUnits, scale, hExp, hNeg, hDen, hNum, hOne, one_mul]

theorem byteSize_of_scaleSize {n k : ℕ} (h : n < 2 ^ 53)
    (hScale : scaleSize false n sizeUnits.length 0 0 = (-(10 * k : ℤ), k)) :
    byteSize n = .ok (hundredthsText (roundHalfEven (n * 100) (1024 ^ k)) ++ " " ++
      sizeUnits.getD k "B") := by
  rw [byteSize, intParts?_of_lt h]
  simp only [hScale, fixed, fixedUnits_scaled, Bool.false_eq_true, if_false, String.empty_append,
    dropTrailingZeros_unitsText]

/-! ## The size shown -/

/-- A count below `2^53` shows in the largest unit it reaches, GB the last, as the count in
that unit rounded half to even to hundredths and written without trailing zeros. In every
unit but GB the value shown is at most 1024. -/
theorem byteSize_in_unit (n : ℕ) (h : n < 2 ^ 53) :
    ∃ k : Fin sizeUnits.length, ∃ u : ℕ,
      byteSize n = .ok (hundredthsText u ++ " " ++ sizeUnits.get k) ∧
      (k.val = 0 ∨ 1024 ^ k.val ≤ n) ∧
      (k.val + 1 = sizeUnits.length ∨ n < 1024 ^ (k.val + 1)) ∧
      RoundsHalfEven (100 * n / 1024 ^ k.val) u ∧
      (k.val + 1 < sizeUnits.length → u ≤ 1024 * 100) := by
  have hLen : sizeUnits.length = 4 := rfl
  obtain ⟨k, hScale, hk, hLow, hHigh⟩ :=
    scaleSize_largest_unit n 4 0 (by norm_num) (by norm_num) (.inl rfl)
  have hRound : RoundsHalfEven (100 * n / 1024 ^ k) (roundHalfEven (n * 100) (1024 ^ k)) := by
    have := roundHalfEven_rounds (n * 100) (1024 ^ k) (by positivity)
    push_cast at this
    rwa [mul_comm] at this
  refine ⟨⟨k, by omega⟩, roundHalfEven (n * 100) (1024 ^ k), ?_, hLow,
    hHigh.imp_left fun hTop => show k + 1 = 4 by omega, hRound, ?_⟩
  · rw [byteSize_of_scaleSize h (by simpa [hLen] using hScale)]
    simp [List.getD_eq_getElem?_getD, List.getElem?_eq_getElem (show k < sizeUnits.length by omega)]
  · intro hBelowGB
    apply hRound.le_of_lt
    have hn : (n : ℚ) < 1024 ^ k * 1024 := by
      rw [← pow_succ]
      exact_mod_cast hHigh.resolve_left (by simp at hBelowGB; omega)
    rw [div_lt_iff₀ (by positivity)]
    push_cast
    nlinarith [pow_pos (show (0 : ℚ) < 1024 by norm_num) k]

/-- One byte short of a mebibyte shows as `1024 KB`: the unit is KB, and the value shown is
1024, not below it. -/
theorem byteSize_just_below_mebibyte : byteSize 1048575 = .ok "1024 KB" := by
  have hScale : scaleSize false 1048575 sizeUnits.length 0 0 = (-(10 * (1 : ℕ) : ℤ), 1) := by
    decide
  rw [show (1048575 : ℤ) = ((1048575 : ℕ) : ℤ) from rfl, byteSize_of_scaleSize (by norm_num) hScale]
  exact congrArg Except.ok (by decide)

/-- The sizes at a count one byte short of a mebibyte, where the value shown reaches 1024. -/
theorem byteSize_in_unit_below_mebibyte :
    (1048575 : ℕ) < 2 ^ 53 ∧ ∃ k : Fin sizeUnits.length, ∃ u : ℕ,
      byteSize (1048575 : ℕ) = .ok (hundredthsText u ++ " " ++ sizeUnits.get k) ∧
      (k.val = 0 ∨ 1024 ^ k.val ≤ 1048575) ∧
      (k.val + 1 = sizeUnits.length ∨ 1048575 < 1024 ^ (k.val + 1)) ∧
      RoundsHalfEven (100 * (1048575 : ℕ) / 1024 ^ k.val) u ∧
      (k.val + 1 < sizeUnits.length → u ≤ 1024 * 100) :=
  ⟨by norm_num, byteSize_in_unit 1048575 (by norm_num)⟩

end Weave
