import Mathlib.Data.List.TakeWhile
import Weave.Source.Line

/-! # The physical lines of a text -/

namespace Weave

set_option autoImplicit false

theorem not_lineFeed_of_not_mem {cs : List Char} (h : '\n' ∉ cs) : ∀ a ∈ cs, (a != '\n') = true := by
  intro a ha
  have hne : a ≠ '\n' := fun e => h (e ▸ ha)
  simpa using hne

theorem lineFeed_not_mem_splitLine (cs : List Char) : '\n' ∉ (splitLine cs).1 := by
  intro h
  have hTake := List.mem_takeWhile_imp h
  simp at hTake

theorem splitLine_of_not_mem {cs : List Char} (h : '\n' ∉ cs) : splitLine cs = (cs, []) := by
  have hAll := not_lineFeed_of_not_mem h
  simp [splitLine, List.takeWhile_eq_self_iff.2 hAll, List.dropWhile_eq_nil_iff.2 hAll]

theorem splitLine_append {pre post : List Char} (h : '\n' ∉ pre) :
    splitLine (pre ++ '\n' :: post) = (pre, post) := by
  have hAll := not_lineFeed_of_not_mem h
  simp [splitLine, List.takeWhile_append_of_pos hAll, List.dropWhile_append_of_pos hAll]

theorem lineFeed_cases (cs : List Char) :
    '\n' ∉ cs ∨ ∃ pre post, '\n' ∉ pre ∧ cs = pre ++ '\n' :: post := by
  induction cs with
  | nil => simp
  | cons c cs ih =>
    by_cases hc : c = '\n'
    · exact .inr ⟨[], cs, by simp, by simp [hc]⟩
    · rcases ih with h | ⟨pre, post, hPre, rfl⟩
      · exact .inl (by simp [Ne.symm hc, h])
      · exact .inr ⟨c :: pre, post, by simp [Ne.symm hc, hPre], rfl⟩

@[simp] theorem physicalLinesOf_nil : physicalLinesOf [] = [] := by
  simp [physicalLinesOf]

theorem physicalLinesOf_of_ne_nil {cs : List Char} (h : cs ≠ []) :
    physicalLinesOf cs = String.ofList (dropReturn (splitLine cs).1) :: physicalLinesOf (splitLine cs).2 := by
  rw [physicalLinesOf, dif_neg h]

theorem physicalLinesOf_of_not_mem {cs : List Char} (h : '\n' ∉ cs) (hne : cs ≠ []) :
    physicalLinesOf cs = [String.ofList (dropReturn cs)] := by
  rw [physicalLinesOf, dif_neg hne, splitLine_of_not_mem h, physicalLinesOf_nil]

theorem physicalLinesOf_append {pre post : List Char} (h : '\n' ∉ pre) :
    physicalLinesOf (pre ++ '\n' :: post) = String.ofList (dropReturn pre) :: physicalLinesOf post := by
  rw [physicalLinesOf, dif_neg (by simp), splitLine_append h]

def linePieces (cs : List Char) : List (List Char) :=
  if (cs.splitOn '\n').getLast? = some [] then (cs.splitOn '\n').dropLast else cs.splitOn '\n'

theorem linePieces_of_not_mem {cs : List Char} (h : '\n' ∉ cs) :
    linePieces cs = if cs = [] then [] else [cs] := by
  by_cases hne : cs = [] <;> simp [linePieces, List.splitOn_eq_singleton h, hne]

theorem linePieces_append {pre post : List Char} (h : '\n' ∉ pre) :
    linePieces (pre ++ '\n' :: post) = pre :: linePieces post := by
  have hSplit := List.splitOn_append_cons_self_of_not_mem h post
  obtain ⟨init, last, hLast⟩ := (List.eq_nil_or_concat _).resolve_left (List.splitOn_ne_nil '\n' post)
  rw [List.concat_eq_append] at hLast
  have hCons : pre :: (init ++ [last]) = (pre :: init) ++ [last] := rfl
  simp only [linePieces, hSplit, hLast, hCons, List.getLast?_concat, List.dropLast_concat]
  split <;> rfl

theorem physicalLinesOf_eq_splitOn (cs : List Char) :
    physicalLinesOf cs = (linePieces cs).map fun piece => String.ofList (dropReturn piece) := by
  rcases lineFeed_cases cs with h | ⟨pre, post, hPre, hcs⟩
  · rw [linePieces_of_not_mem h]
    by_cases hne : cs = []
    · simp [hne]
    · simp [physicalLinesOf_of_not_mem h hne, hne]
  · rw [hcs, physicalLinesOf_append hPre, linePieces_append hPre, List.map_cons,
      physicalLinesOf_eq_splitOn post]
termination_by cs.length
decreasing_by simp only [hcs, List.length_append, List.length_cons]; omega

/-- A text less its first `n` lines. -/
def dropLines : Nat → List Char → List Char
  | 0, cs => cs
  | n + 1, cs => (splitLine (dropLines n cs)).2

@[simp] theorem dropLines_zero (cs : List Char) : dropLines 0 cs = cs := rfl

@[simp] theorem dropLines_succ (n : Nat) (cs : List Char) :
    dropLines (n + 1) cs = (splitLine (dropLines n cs)).2 := rfl

end Weave
