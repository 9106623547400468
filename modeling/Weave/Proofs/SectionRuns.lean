import Mathlib
import Weave.Section.Basic

/-! # Sections are the maximal runs of a file's lines

A cut of a file's classified lines into maximal runs of one kind is unique: it is their
split by kind (`maximalRuns_iff`), and the runs that `runsOf` gathers from the last line
back are that cut (`runsOf_maximal`). Each section reads its run off (`RunSection`): the
numbers of the run's first and last lines, and the run's code, or the cleaned prose of its
lines that are not directives. When the lines are numbered from one, the sections laid end
to end cover every line once (`Tiles`) and alternate between code and prose. Main
statement: `sectionsOf_maximalRuns`.
-/

namespace Weave

open Weave.Text

set_option autoImplicit false

def SourceLine.sameKind (a b : SourceLine) : Bool :=
  a.kind == b.kind

theorem SourceLine.sameKind_iff {a b : SourceLine} : a.sameKind b = true ↔ a.kind = b.kind := by
  simp [sameKind]

/-! ## Maximal runs -/

/-- `runs` cuts the lines `L` into maximal runs of one kind: laid end to end they are `L`,
none is empty, the lines of a run have one kind, and a run's last line and the next run's
first line differ in kind. -/
structure MaximalRuns (L : List SourceLine) (runs : List (List SourceLine)) : Prop where
  flatten : L = runs.flatten
  nonempty : [] ∉ runs
  oneKind : ∀ run ∈ runs, run.IsChain fun a b => a.sameKind b = true
  boundary : runs.IsChain fun a b => ∃ ha hb, (a.getLast ha).sameKind (b.head hb) = false

theorem maximalRuns_iff {L : List SourceLine} {runs : List (List SourceLine)} :
    MaximalRuns L runs ↔ L.splitBy SourceLine.sameKind = runs := by
  rw [List.splitBy_eq_iff]
  exact ⟨fun h => ⟨h.1, h.2, h.3, h.4⟩, fun ⟨h1, h2, h3, h4⟩ => ⟨h1, h2, h3, h4⟩⟩

theorem kind_eq_of_isChain {f : SourceLine} {r : List SourceLine}
    (h : (f :: r).IsChain fun a b => a.sameKind b = true) : ∀ l ∈ f :: r, l.kind = f.kind := by
  induction r generalizing f with
  | nil => simp
  | cons g r ih =>
    rw [List.isChain_cons_cons] at h
    have hg := SourceLine.sameKind_iff.1 h.1
    intro l hl
    rcases List.mem_cons.1 hl with rfl | hl
    · rfl
    · rw [ih h.2 l hl, hg]

theorem runsOf_maximal : ∀ L : List SourceLine, MaximalRuns L ((runsOf L).map fun p => p.1 :: p.2)
  | [] => ⟨rfl, by simp [runsOf], by simp [runsOf], by simp [runsOf]⟩
  | l :: ls => by
    obtain ⟨hFlat, -, hOne, hBoundary⟩ := runsOf_maximal ls
    cases hRuns : runsOf ls with
    | nil =>
      rw [hRuns] at hFlat
      simp only [List.map_nil, List.flatten_nil] at hFlat
      subst hFlat
      exact ⟨rfl, by simp [runsOf], by simp [runsOf], by simp [runsOf]⟩
    | cons p more =>
      obtain ⟨f, r⟩ := p
      rw [hRuns] at hFlat hOne hBoundary
      simp only [List.map_cons, List.flatten_cons] at hFlat hOne hBoundary
      by_cases hKind : (f.kind == l.kind) = true
      · have hSame : l.sameKind f = true := by
          simp only [beq_iff_eq] at hKind
          exact SourceLine.sameKind_iff.2 hKind.symm
        simp only [runsOf, hRuns, hKind, if_true, List.map_cons]
        refine ⟨by simp [hFlat], by simp, ?_, ?_⟩
        · intro run hrun
          rcases List.mem_cons.1 hrun with rfl | hrun
          · exact (hOne _ List.mem_cons_self).cons_cons hSame
          · exact hOne run (List.mem_cons_of_mem _ hrun)
        · rw [List.isChain_cons] at hBoundary ⊢
          refine ⟨fun next hNext => ?_, hBoundary.2⟩
          obtain ⟨ha, hb, hDiffer⟩ := hBoundary.1 next hNext
          exact ⟨List.cons_ne_nil _ _, hb, by rwa [List.getLast_cons ha]⟩
      · have hOther : l.sameKind f = false := by
          simp only [beq_iff_eq] at hKind
          simp only [SourceLine.sameKind, beq_eq_false_iff_ne, ne_eq]
          exact fun h => hKind h.symm
        simp only [runsOf, hRuns, hKind, Bool.false_eq_true, if_false, List.map_cons]
        refine ⟨by simp [hFlat], by simp, ?_, ?_⟩
        · intro run hrun
          rcases List.mem_cons.1 hrun with rfl | hrun
          · exact List.isChain_singleton _
          · exact hOne run hrun
        · exact hBoundary.cons_cons ⟨List.cons_ne_nil _ _, List.cons_ne_nil _ _, hOther⟩

theorem runsOf_eq_splitBy (L : List SourceLine) :
    (runsOf L).map (fun p => p.1 :: p.2) = L.splitBy SourceLine.sameKind :=
  (maximalRuns_iff.1 (runsOf_maximal L)).symm

/-! ## The section of a run -/

/-- What the section `s` of a run holds: the numbers of the run's first and last lines; for
a run of code, no prose, its lines joined by line feeds and its first number as where the
code starts; for a run of comments, no code, code start 0, and the cleaned prose of its
lines that are not directives, joined by line feeds. -/
structure RunSection (keywords : List String) (run : List SourceLine) (s : Section) : Prop where
  start : run.head?.map SourceLine.number = some s.startLine
  stop : run.getLast?.map SourceLine.number = some s.endLine
  code : ∀ l ∈ run.head?, l.kind = .code →
    s.docsText = "" ∧ s.codeStartLine = s.startLine ∧
      s.codeText = "\n".intercalate (run.map SourceLine.text)
  comment : ∀ l ∈ run.head?, l.kind = .comment →
    s.codeText = "" ∧ s.codeStartLine = 0 ∧
      s.docsText = "\n".intercalate
        ((run.filter fun l => !isDirectiveLine keywords l.text).map fun l => cleanCommentLine l.text)

theorem runSection_ofRun (keywords : List String) (first : SourceLine) (rest : List SourceLine) :
    RunSection keywords (first :: rest) (Section.ofRun keywords first rest) := by
  cases hKind : first.kind with
  | comment =>
    refine ⟨?_, ?_, ?_, ?_⟩ <;> simp [Section.ofRun, hKind, List.getLast?_cons]
  | code =>
    refine ⟨?_, ?_, ?_, ?_⟩ <;> simp [Section.ofRun, hKind, List.getLast?_cons]

theorem sectionsOf_of_ne_nil (keywords : List String) {L : List SourceLine} (hL : L ≠ []) :
    sectionsOf keywords L = (runsOf L).map fun p => Section.ofRun keywords p.1 p.2 := by
  have hFlat := (runsOf_maximal L).flatten
  rw [sectionsOf]
  cases hRuns : runsOf L with
  | nil =>
    rw [hRuns] at hFlat
    exact absurd hFlat hL
  | cons p more => rfl

theorem forall₂_sectionsOf (keywords : List String) {L : List SourceLine} (hL : L ≠ []) :
    List.Forall₂ (RunSection keywords) (L.splitBy SourceLine.sameKind) (sectionsOf keywords L) := by
  rw [← runsOf_eq_splitBy, sectionsOf_of_ne_nil keywords hL, List.forall₂_map_left_iff,
    List.forall₂_map_right_iff]
  exact List.forall₂_same.2 fun p _ => runSection_ofRun keywords p.1 p.2

/-! ## Sections laid end to end -/

def NumberedFrom (a : Int) (L : List SourceLine) : Prop :=
  L.map SourceLine.number = (List.range L.length).map fun i : Nat => a + (i : Int)

theorem numberedFrom_append {a : Int} {x y : List SourceLine} :
    NumberedFrom a (x ++ y) ↔ NumberedFrom a x ∧ NumberedFrom (a + x.length) y := by
  unfold NumberedFrom
  have hShift : ((fun i : Nat => a + (i : Int)) ∘ fun i => x.length + i) =
      fun i : Nat => a + x.length + (i : Int) := by
    funext i
    simp only [Function.comp_apply]
    push_cast
    omega
  rw [List.map_append, List.length_append, List.range_add, List.map_append, List.map_map, hShift]
  constructor
  · intro h
    exact List.append_inj h (by simp)
  · rintro ⟨hx, hy⟩
    rw [hx, hy]

theorem NumberedFrom.ends {a : Int} {run : List SourceLine} (h : NumberedFrom a run) (hne : run ≠ []) :
    run.head?.map SourceLine.number = some a ∧
      run.getLast?.map SourceLine.number = some (a + run.length - 1) := by
  obtain ⟨n, hn⟩ : ∃ n, run.length = n + 1 := Nat.exists_eq_succ_of_ne_zero (by simpa using hne)
  unfold NumberedFrom at h
  rw [← List.head?_map, ← List.getLast?_map, h, hn, List.head?_map, List.getLast?_map,
    List.head?_range, List.getLast?_range]
  simp only [Nat.add_one_ne_zero, if_false, Nat.add_sub_cancel, Option.map_some, Option.some.injEq]
  push_cast
  omega

/-- The sections `ss` cover the lines numbered `a` to `a + n - 1` once, in order: the first
starts at `a`, each starts on the line after the one before it ends, the last ends at
`a + n - 1`, and their lengths add up to `n`. -/
structure Tiles (a : Int) (n : Nat) (ss : List Section) : Prop where
  start : ss.head?.map Section.startLine = some a
  consecutive : ss.IsChain fun s t => t.startLine = s.endLine + 1
  stop : ss.getLast?.map Section.endLine = some (a + n - 1)
  total : (ss.map Section.lineCount).sum = n

variable {keywords : List String}

theorem tiles_of_runs : ∀ {runs : List (List SourceLine)} {ss : List Section} {a : Int},
    List.Forall₂ (RunSection keywords) runs ss → [] ∉ runs → runs ≠ [] →
      NumberedFrom a runs.flatten → Tiles a runs.flatten.length ss
  | [], _, _, _, _, hne, _ => absurd rfl hne
  | run :: runs, s :: ss, a, hRel, hNonempty, _, hNumbered => by
    obtain ⟨hs, hRest⟩ := List.forall₂_cons.1 hRel
    have hRun : run ≠ [] := fun h => hNonempty (h ▸ List.mem_cons_self)
    rw [List.flatten_cons, numberedFrom_append] at hNumbered
    obtain ⟨hStart, hStop⟩ := hNumbered.1.ends hRun
    have hFirst : s.startLine = a := by
      rw [hs.start] at hStart
      exact Option.some.inj hStart
    have hLast : s.endLine = a + run.length - 1 := by
      rw [hs.stop] at hStop
      exact Option.some.inj hStop
    have hCount : s.lineCount = run.length := by
      simp only [Section.lineCount, hFirst, hLast]
      omega
    rw [List.flatten_cons, List.length_append]
    cases runs with
    | nil =>
      rw [List.forall₂_nil_left_iff.1 hRest]
      refine ⟨by simp [hFirst], List.isChain_singleton _, ?_, by simp [hCount]⟩
      simp [hLast]
    | cons next runs =>
      have hTail := tiles_of_runs hRest (fun h => hNonempty (List.mem_cons_of_mem _ h))
        (List.cons_ne_nil _ _) hNumbered.2
      obtain ⟨t, ts, rfl⟩ : ∃ t ts, ss = t :: ts := by
        cases ss with
        | nil => exact absurd hRest (by simp)
        | cons t ts => exact ⟨t, ts, rfl⟩
      have hNext : t.startLine = s.endLine + 1 := by
        have := hTail.start
        simp only [List.head?_cons, Option.map_some, Option.some.injEq] at this
        rw [this, hLast]
        omega
      refine ⟨by simp [hFirst], hTail.consecutive.cons_cons hNext, ?_, ?_⟩
      · rw [List.getLast?_cons_cons, hTail.stop]
        congr 1
        push_cast
        omega
      · rw [List.map_cons, List.sum_cons, hTail.total, hCount]
        push_cast
        rfl

theorem RunSection.hasCode_eq {run : List SourceLine} {s : Section} (h : RunSection keywords run s)
    {f : SourceLine} (hf : f ∈ run.head?) (hPositive : 0 < f.number) :
    s.hasCode = (f.kind == .code) := by
  have hStart : f.number = s.startLine := by
    have := h.start
    rw [Option.mem_def.1 hf, Option.map_some, Option.some.injEq] at this
    exact this
  cases hKind : f.kind with
  | code =>
    obtain ⟨-, hCode, -⟩ := h.code f hf hKind
    simp [Section.hasCode, hCode, ← hStart, hPositive]
  | comment =>
    obtain ⟨-, hCode, -⟩ := h.comment f hf hKind
    simp [Section.hasCode, hCode]

theorem hasCode_alternates : ∀ {runs : List (List SourceLine)} {ss : List Section},
    List.Forall₂ (RunSection keywords) runs ss → [] ∉ runs →
      (∀ run ∈ runs, run.IsChain fun a b => a.sameKind b = true) →
      (runs.IsChain fun a b => ∃ ha hb, (a.getLast ha).sameKind (b.head hb) = false) →
      (∀ l ∈ runs.flatten, 0 < l.number) → ss.IsChain fun s t => s.hasCode ≠ t.hasCode
  | [], [], _, _, _, _, _ => .nil
  | [_], [_], _, _, _, _, _ => List.isChain_singleton _
  | run :: next :: runs, s :: t :: ss, hRel, hNonempty, hOne, hBoundary, hPositive => by
    obtain ⟨hs, ht, hRest⟩ : RunSection keywords run s ∧ RunSection keywords next t ∧
        List.Forall₂ (RunSection keywords) runs ss := by
      simpa only [List.forall₂_cons] using hRel
    obtain ⟨f, r, rfl⟩ := List.exists_cons_of_ne_nil fun h => hNonempty (h ▸ List.mem_cons_self)
    obtain ⟨g, q, rfl⟩ := List.exists_cons_of_ne_nil fun h =>
      hNonempty (h ▸ List.mem_cons_of_mem _ List.mem_cons_self)
    rw [List.isChain_cons_cons] at hBoundary
    obtain ⟨⟨ha, hb, hDiffer⟩, hBoundaryRest⟩ := hBoundary
    have hLastKind := kind_eq_of_isChain (hOne _ List.mem_cons_self) _ (List.getLast_mem ha)
    have hKinds : f.kind ≠ g.kind := by
      intro hEq
      rw [List.head_cons, SourceLine.sameKind, hLastKind, hEq] at hDiffer
      simp at hDiffer
    have hsCode := hs.hasCode_eq (show f ∈ (f :: r).head? by simp) (hPositive f (by simp))
    have htCode := ht.hasCode_eq (show g ∈ (g :: q).head? by simp) (hPositive g (by simp))
    refine List.IsChain.cons_cons ?_ (hasCode_alternates (List.Forall₂.cons ht hRest)
      (fun h => hNonempty (List.mem_cons_of_mem _ h)) (fun run hrun => hOne run (List.mem_cons_of_mem _ hrun))
      hBoundaryRest (fun l hl => hPositive l (by simp_all)))
    rw [hsCode, htCode]
    cases hf : f.kind <;> cases hg : g.kind <;> simp_all

/-! ## The sections of a file -/

/-- The sections of some lines: one empty section from line 1 to line 0 when there are
none; otherwise one section per maximal run of one kind, in order, each holding its run's
first and last numbers and its code or its prose. When the lines are numbered from one to
`n`, the sections tile them and alternate between code and prose. -/
theorem sectionsOf_maximalRuns (keywords : List String) (L : List SourceLine) :
    (L = [] → sectionsOf keywords L = [⟨"", "", 0, 1, 0⟩]) ∧
    (L ≠ [] → ∃ runs, MaximalRuns L runs ∧ (∀ runs', MaximalRuns L runs' → runs' = runs) ∧
      List.Forall₂ (RunSection keywords) runs (sectionsOf keywords L)) ∧
    (∀ n : Nat, L.map SourceLine.number = (List.range n).map (fun i : Nat => (i : Int) + 1) →
      Tiles 1 n (sectionsOf keywords L) ∧
        (sectionsOf keywords L).IsChain fun s t => s.hasCode ≠ t.hasCode) := by
  have hMaximal := maximalRuns_iff.2 (rfl : L.splitBy SourceLine.sameKind = _)
  refine ⟨?_, fun hL => ⟨_, hMaximal, fun runs' h => (maximalRuns_iff.1 h).symm,
    forall₂_sectionsOf keywords hL⟩, ?_⟩
  · rintro rfl
    rfl
  · intro n hNumbers
    have hLength : L.length = n := by simpa using congrArg List.length hNumbers
    by_cases hL : L = []
    · subst hL
      subst hLength
      refine ⟨⟨rfl, List.isChain_singleton _, rfl, rfl⟩, List.isChain_singleton _⟩
    · have hRel := forall₂_sectionsOf keywords hL
      have hNumbered : NumberedFrom 1 L := by
        rw [NumberedFrom, hNumbers, hLength]
        simp only [Int.add_comm]
      have hRunsNe : L.splitBy SourceLine.sameKind ≠ [] := List.splitBy_ne_nil.2 hL
      have hFlat := hMaximal.flatten
      refine ⟨?_, hasCode_alternates hRel hMaximal.nonempty hMaximal.oneKind hMaximal.boundary ?_⟩
      · have hTiles := tiles_of_runs hRel hMaximal.nonempty hRunsNe (hFlat ▸ hNumbered)
        rwa [← hFlat, hLength] at hTiles
      · intro l hl
        rw [← hFlat] at hl
        have hMem : l.number ∈ L.map SourceLine.number := List.mem_map_of_mem hl
        rw [hNumbers, List.mem_map] at hMem
        obtain ⟨i, -, hi⟩ := hMem
        omega

end Weave
