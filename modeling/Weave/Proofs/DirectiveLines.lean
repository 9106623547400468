import Mathlib.Data.List.TakeWhile
import Weave.Section.Directive

/-! # Which lines are commented-out directives

A line is a directive of a keyword list when it reads, from its start, blanks, `//`,
blanks, `#` and one of the keywords, and a word boundary follows the keyword. The
boundary is judged between the keyword's last character and what comes after it, so it
means "no word character follows" only for a keyword that ends in a word character; an
empty list offers the empty keyword, whose boundary is judged after the `#`.
-/

namespace Weave

open Weave.Text

set_option autoImplicit false

theorem dropWhile_eq_cons_iff {α : Type} {p : α → Bool} {l r : List α} {c : α} :
    l.dropWhile p = c :: r ↔ ∃ w, l = w ++ c :: r ∧ (∀ x ∈ w, p x = true) ∧ p c = false := by
  constructor
  · intro h
    refine ⟨l.takeWhile p, ?_, fun x hx => List.mem_takeWhile_imp hx, ?_⟩
    · rw [← h, List.takeWhile_append_dropWhile]
    · have hHead := @List.head_dropWhile_not _ p l (by simp [h])
      simpa [h] using hHead
  · rintro ⟨w, rfl, hw, hc⟩
    rw [List.dropWhile_append_of_pos hw, List.dropWhile_cons_of_neg (by simp [hc])]

theorem keywordOpens_iff (after : List Char) (keyword : String) :
    keywordOpens after keyword = true ↔ ∃ rest, after = keyword.toList ++ rest ∧
      boundaryAfter (keyword.toList.getLastD '#') rest = true := by
  simp only [keywordOpens, Bool.and_eq_true, List.isPrefixOf_iff_prefix]
  constructor
  · rintro ⟨⟨rest, rfl⟩, hBoundary⟩
    exact ⟨rest, rfl, by simpa using hBoundary⟩
  · rintro ⟨rest, rfl, hBoundary⟩
    exact ⟨List.prefix_append _ _, by simpa using hBoundary⟩

theorem isDirectiveLine_iff (keywords : List String) (text : String) :
    isDirectiveLine keywords text = true ↔
      ∃ w₁ w₂ k rest, text.toList = w₁ ++ '/' :: '/' :: (w₂ ++ '#' :: (k.toList ++ rest)) ∧
        (∀ c ∈ w₁, isBlank c = true) ∧ (∀ c ∈ w₂, isBlank c = true) ∧
        k ∈ alternatives keywords ∧ boundaryAfter (k.toList.getLastD '#') rest = true := by
  have hSlash : isBlank '/' = false := by decide
  have hHash : isBlank '#' = false := by decide
  constructor
  · intro h
    unfold isDirectiveLine at h
    split at h
    · rename_i rest hLead
      split at h
      · rename_i after hGap
        obtain ⟨w₁, hText, hw₁, -⟩ := dropWhile_eq_cons_iff.1 hLead
        obtain ⟨w₂, rfl, hw₂, -⟩ := dropWhile_eq_cons_iff.1 hGap
        obtain ⟨k, hk, hOpens⟩ := List.any_eq_true.1 h
        obtain ⟨rest, rfl, hBoundary⟩ := (keywordOpens_iff after k).1 hOpens
        exact ⟨w₁, w₂, k, rest, hText, hw₁, hw₂, hk, hBoundary⟩
      · cases h
    · cases h
  · rintro ⟨w₁, w₂, k, rest, hText, hw₁, hw₂, hk, hBoundary⟩
    have hLead : text.toList.dropWhile isBlank = '/' :: '/' :: (w₂ ++ '#' :: (k.toList ++ rest)) :=
      dropWhile_eq_cons_iff.2 ⟨w₁, hText, hw₁, hSlash⟩
    have hGap : (w₂ ++ '#' :: (k.toList ++ rest)).dropWhile isBlank = '#' :: (k.toList ++ rest) :=
      dropWhile_eq_cons_iff.2 ⟨w₂, rfl, hw₂, hHash⟩
    have hOpens : (alternatives keywords).any (keywordOpens (k.toList ++ rest)) = true :=
      List.any_eq_true.2 ⟨k, hk, (keywordOpens_iff _ k).2 ⟨rest, rfl, hBoundary⟩⟩
    simp only [isDirectiveLine, hLead, hGap, hOpens]

theorem boundaryAfter_of_word {c : Char} (hc : isWordChar c = true) (rest : List Char) :
    boundaryAfter c rest = true ↔ rest = [] ∨ ∃ d r, rest = d :: r ∧ isWordChar d = false := by
  cases rest with
  | nil => simp [boundaryAfter, hc]
  | cons d r => cases hd : isWordChar d <;> simp [boundaryAfter, hc, hd]

theorem boundaryAfter_of_not_word {c : Char} (hc : isWordChar c = false) (rest : List Char) :
    boundaryAfter c rest = true ↔ ∃ d r, rest = d :: r ∧ isWordChar d = true := by
  cases rest with
  | nil => simp [boundaryAfter, hc]
  | cons d r => cases hd : isWordChar d <;> simp [boundaryAfter, hc, hd]

/-- For a nonempty list of keywords that each end in a word character, a line is a
directive exactly when it is blanks, `//`, blanks, `#` and one of the keywords, followed by
nothing or by a character that is not a word character. -/
theorem isDirectiveLine_iff_of_word_ends {keywords : List String} (hNonempty : keywords ≠ [])
    (hEnds : ∀ k ∈ keywords, k.toList.getLast?.any isWordChar = true) (text : String) :
    isDirectiveLine keywords text = true ↔
      ∃ w₁ w₂ k rest, text.toList = w₁ ++ '/' :: '/' :: (w₂ ++ '#' :: (k.toList ++ rest)) ∧
        (∀ c ∈ w₁, isBlank c = true) ∧ (∀ c ∈ w₂, isBlank c = true) ∧ k ∈ keywords ∧
        (rest = [] ∨ ∃ c r, rest = c :: r ∧ isWordChar c = false) := by
  have hAlternatives : alternatives keywords = keywords := by simp [alternatives, hNonempty]
  have hBoundary : ∀ k ∈ keywords, ∀ rest, boundaryAfter (k.toList.getLastD '#') rest = true ↔
      rest = [] ∨ ∃ c r, rest = c :: r ∧ isWordChar c = false := by
    intro k hk rest
    obtain ⟨c, hLast, hc⟩ := (Option.any_eq_true isWordChar _).1 (hEnds k hk)
    rw [List.getLastD_eq_getLast?, hLast, Option.getD_some]
    exact boundaryAfter_of_word hc rest
  rw [isDirectiveLine_iff, hAlternatives]
  constructor
  · rintro ⟨w₁, w₂, k, rest, hText, hw₁, hw₂, hk, hAfter⟩
    exact ⟨w₁, w₂, k, rest, hText, hw₁, hw₂, hk, (hBoundary k hk rest).1 hAfter⟩
  · rintro ⟨w₁, w₂, k, rest, hText, hw₁, hw₂, hk, hAfter⟩
    exact ⟨w₁, w₂, k, rest, hText, hw₁, hw₂, hk, (hBoundary k hk rest).2 hAfter⟩

/-- The default keywords are a case: `// #region Helpers` is a directive. -/
theorem defaultDirectives_region_line :
    defaultDirectives ≠ [] ∧ (∀ k ∈ defaultDirectives, k.toList.getLast?.any isWordChar = true) ∧
      (isDirectiveLine defaultDirectives "// #region Helpers" = true ↔
        ∃ w₁ w₂ k rest, "// #region Helpers".toList =
            w₁ ++ '/' :: '/' :: (w₂ ++ '#' :: (k.toList ++ rest)) ∧
          (∀ c ∈ w₁, isBlank c = true) ∧ (∀ c ∈ w₂, isBlank c = true) ∧ k ∈ defaultDirectives ∧
          (rest = [] ∨ ∃ c r, rest = c :: r ∧ isWordChar c = false)) := by
  have hNonempty : defaultDirectives ≠ [] := by decide
  have hEnds : ∀ k ∈ defaultDirectives, k.toList.getLast?.any isWordChar = true := by
    decide +kernel
  exact ⟨hNonempty, hEnds, isDirectiveLine_iff_of_word_ends hNonempty hEnds _⟩

theorem isDirectiveLine_nil_iff (text : String) :
    isDirectiveLine [] text = true ↔
      ∃ w₁ w₂ c rest, text.toList = w₁ ++ '/' :: '/' :: (w₂ ++ '#' :: c :: rest) ∧
        (∀ x ∈ w₁, isBlank x = true) ∧ (∀ x ∈ w₂, isBlank x = true) ∧ isWordChar c = true := by
  have hHash : isWordChar '#' = false := by decide +kernel
  have hAlternatives : alternatives [] = [""] := rfl
  rw [isDirectiveLine_iff, hAlternatives]
  constructor
  · rintro ⟨w₁, w₂, k, rest, hText, hw₁, hw₂, hk, hAfter⟩
    rw [List.mem_singleton] at hk
    subst hk
    obtain ⟨c, r, rfl, hc⟩ := (boundaryAfter_of_not_word hHash rest).1 hAfter
    exact ⟨w₁, w₂, c, r, hText, hw₁, hw₂, hc⟩
  · rintro ⟨w₁, w₂, c, rest, hText, hw₁, hw₂, hc⟩
    exact ⟨w₁, w₂, "", c :: rest, hText, hw₁, hw₂, List.mem_singleton_self _,
      (boundaryAfter_of_not_word hHash _).2 ⟨c, rest, rfl, hc⟩⟩

/-- With no keywords, `//#a` is a directive. -/
theorem isDirectiveLine_nil_hash_word : isDirectiveLine [] "//#a" = true := by
  decide +kernel

end Weave
