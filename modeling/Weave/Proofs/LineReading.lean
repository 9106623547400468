import Mathlib.Data.List.GetD
import Mathlib.Data.List.Infix
import Weave.Proofs.Layout
import Weave.Proofs.WalkInvariant

/-! # Reading a text beside the tokens of another

The walk reads a text `r` line by line beside the tokens of a text `s`. Between its steps,
`Reading` holds: the lines completed are the first physical lines of `r`, numbered from
one, and show the visible characters of as many first lines of `s`; the text not read yet
is `r` less those lines; the pending text has no line feed, and with the token text left
it stands for `s` less those lines (`Covers`). `Tracks` adds what holds between tokens:
the pending text shows a character if there is any, and every token left is `Solid`.
-/

namespace Weave

open Weave.Text Weave.Token

set_option autoImplicit false

theorem mem_of_mem_dropReturn {c : Char} {cs : List Char} (h : c ∈ dropReturn cs) : c ∈ cs := by
  unfold dropReturn at h
  split at h
  · exact List.mem_of_mem_dropLast h
  · exact h

theorem shape_dropReturn (cs : List Char) : shape (dropReturn cs) = shape cs := by
  unfold dropReturn
  split
  · next hReturn =>
    have hLast : cs.getLast? = some '\r' := by simpa using hReturn
    conv_rhs => rw [← List.dropLast_append_getLast? '\r' hLast]
    have hReturnBlank : isBlank '\r' = true := by decide
    simp [shape, hReturnBlank]
  · rfl

theorem visible_dropReturn {cs : List Char} (h : '\n' ∉ cs) :
    visible (String.ofList (dropReturn cs)) = shape cs := by
  have hNone : '\n' ∉ dropReturn cs := fun hm => h (mem_of_mem_dropReturn hm)
  rw [← shape_eq_visible hNone, shape_dropReturn]

theorem visible_readLine (cs : List Char) :
    visible (String.ofList (dropReturn (splitLine cs).1)) = shape (splitLine cs).1 :=
  visible_dropReturn (lineFeed_not_mem_splitLine cs)

theorem lineFeed_not_mem_join {ps : List String} (h : ∀ p ∈ ps, '\n' ∉ p.toList) :
    '\n' ∉ (String.join ps).toList := by
  simpa using h

theorem visible_getD_physicalLinesOf {u : List Char} (hu : '\n' ∉ u) (k : Nat) :
    visible ((physicalLinesOf u).getD k "") = if k = 0 then shape u else [] := by
  by_cases hne : u = []
  · subst hne
    cases k <;> simp [visible]
  · rw [physicalLinesOf_of_not_mem hu hne]
    cases k with
    | zero => simpa using visible_dropReturn hu
    | succ k => simp [visible]

theorem length_physicalLinesOf_le {u : List Char} (hu : '\n' ∉ u) : (physicalLinesOf u).length ≤ 1 := by
  by_cases hne : u = []
  · simp [hne]
  · simp [physicalLinesOf_of_not_mem hu hne]

theorem visible_getD_append {A B X Y : List String} (hAB : A.map visible = B.map visible)
    (hXY : ∀ k, visible (X.getD k "") = visible (Y.getD k "")) (k : Nat) :
    visible ((A ++ X).getD k "") = visible ((B ++ Y).getD k "") := by
  have hLength : A.length = B.length := by simpa using congrArg List.length hAB
  by_cases hk : k < A.length
  · rw [List.getD_append _ _ _ _ hk, List.getD_append _ _ _ _ (hLength ▸ hk)]
    have hAt := congrArg (fun l => l.getD k (visible "")) hAB
    simpa only [List.getD_map] using hAt
  · have hLe : A.length ≤ k := Nat.le_of_not_lt hk
    rw [List.getD_append_right _ _ _ _ hLe, List.getD_append_right _ _ _ _ (hLength ▸ hLe), hLength]
    exact hXY _

namespace Walk

def Admitted (s r : String) (e : Fault) : Prop :=
  s ≠ r ∨ e.isDeclaration = true

/-- How far the walk has read `r` beside the tokens of `s`, with the token text `rest` left:
the lines completed are the first physical lines of `r`, numbered from one, and show the
visible characters of as many first lines of `s`; the text not read is `r` less those lines;
the pending text has no line feed, and with `rest` stands for `s` less those lines. -/
structure Reading (s r : String) (w : Walk) (rest : List Char) : Prop where
  reads : w.lines.toList.map SourceLine.text ++ physicalLinesOf w.unread = physicalLines r
  unread_eq : w.unread = dropLines w.lines.size r.toList
  numbered : w.lines.toList.map SourceLine.number = (List.range w.lines.size).map fun i : Nat => (i : Int) + 1
  agrees : ∃ ls, physicalLines s = ls ++ physicalLinesOf (dropLines w.lines.size s.toList) ∧
    ls.map visible = w.lines.toList.map fun l => visible l.text
  pending_line : ∀ p ∈ w.pending.toList, '\n' ∉ p.toList
  covers : Covers ((String.join w.pending.toList).toList ++ rest) (dropLines w.lines.size s.toList)

variable {s r : String}

namespace Reading

theorem frame {w w' : Walk} {rest : List Char} (h : Reading s r w rest) (hu : w'.unread = w.unread)
    (hl : w'.lines = w.lines) (hp : w'.pending = w.pending) : Reading s r w' rest := by
  refine ⟨?_, ?_, ?_, ?_, ?_, ?_⟩ <;> simp only [hu, hl, hp]
  · exact h.reads
  · exact h.unread_eq
  · exact h.numbered
  · exact h.agrees
  · exact h.pending_line
  · exact h.covers

theorem push {w : Walk} {p rest : List Char} (h : Reading s r w (p ++ rest)) (hp : '\n' ∉ p) :
    Reading s r { w with pending := w.pending.push (String.ofList p) } rest where
  reads := h.reads
  unread_eq := h.unread_eq
  numbered := h.numbered
  agrees := h.agrees
  pending_line := by
    intro q hq
    rw [Array.toList_push, List.mem_append, List.mem_singleton] at hq
    rcases hq with hq | rfl
    · exact h.pending_line q hq
    · simpa using hp
  covers := by simpa using h.covers

theorem pushPending {p rest : List Char} (hp : '\n' ∉ p) :
    Triple (Reading s r · (p ++ rest)) (Walk.pushPending p) (fun _ w => Reading s r w rest)
      (Admitted s r) :=
  Triple.modify fun _ hw => hw.push hp

theorem reads_completeLine {w : Walk} {rest : List Char} (h : Reading s r w rest)
    (hne : w.unread ≠ []) :
    w.completeLine.lines.toList.map SourceLine.text ++ physicalLinesOf w.completeLine.unread =
      physicalLines r := by
  rw [completeLine_lines, Array.toList_push, List.map_append, List.append_assoc, List.map_singleton,
    List.singleton_append, completeLine_unread, ← physicalLinesOf_of_ne_nil hne]
  exact h.reads

theorem numbered_completeLine {w : Walk} {rest : List Char} (h : Reading s r w rest) :
    w.completeLine.lines.toList.map SourceLine.number =
      (List.range w.completeLine.lines.size).map fun i : Nat => (i : Int) + 1 := by
  rw [completeLine_lines, Array.toList_push, List.map_append, h.numbered, Array.size_push,
    List.range_succ, List.map_append]
  simp [nextNumber]

theorem completeLine {w : Walk} {rest : List Char} (h : Reading s r w ('\n' :: rest))
    (hne : w.unread ≠ [])
    (hSame : visible (String.ofList (dropReturn (splitLine w.unread).1)) =
      visible (String.join w.pending.toList)) :
    Reading s r w.completeLine rest := by
  have hNone := lineFeed_not_mem_join h.pending_line
  obtain ⟨hu, hShape, hCovers⟩ := Covers.lineFeed hNone h.covers
  obtain ⟨ls, hS, hVisible⟩ := h.agrees
  refine ⟨h.reads_completeLine hne, ?_, h.numbered_completeLine, ?_, by simp, ?_⟩
  · rw [completeLine_unread, completeLine_lines, Array.size_push, dropLines_succ, ← h.unread_eq]
  · refine ⟨ls ++ [String.ofList (dropReturn (splitLine (dropLines w.lines.size s.toList)).1)], ?_, ?_⟩
    · rw [hS, completeLine_lines, Array.size_push, dropLines_succ, List.append_assoc,
        List.singleton_append, ← physicalLinesOf_of_ne_nil hu]
    · have hLine : visible (String.ofList (dropReturn (splitLine (dropLines w.lines.size s.toList)).1)) =
          visible (String.ofList (dropReturn (splitLine w.unread).1)) := by
        rw [visible_readLine, ← hShape, shape_eq_visible hNone, String.ofList_toList, hSame]
      simp [hVisible, hLine]
  · simpa [Array.size_push] using hCovers

theorem nextLine {rest : List Char} :
    Triple (Reading s r · ('\n' :: rest)) Walk.nextLine
      (fun _ w => Reading s r w rest ∧ w.pending = #[]) (Admitted s r) := by
  intro w h
  have hNone := lineFeed_not_mem_join h.pending_line
  obtain ⟨hu, hShape, -⟩ := Covers.lineFeed hNone h.covers
  rw [run_nextLine]
  by_cases hEmpty : w.unread = []
  · rw [if_pos hEmpty]
    refine .inl ?_
    rintro rfl
    exact hu (h.unread_eq ▸ hEmpty)
  · rw [if_neg hEmpty]
    by_cases hSame : visible (String.ofList (dropReturn (splitLine w.unread).1)) =
        visible (String.join w.pending.toList)
    · rw [if_pos hSame]
      exact ⟨h.completeLine hEmpty hSame, rfl⟩
    · rw [if_neg hSame]
      refine .inl ?_
      rintro rfl
      apply hSame
      rw [visible_readLine, h.unread_eq, ← hShape, shape_eq_visible hNone, String.ofList_toList]

theorem gatherText (x : List Char) (hx : EndsVisible x) (rest : List Char) :
    Triple (Reading s r · (x ++ rest)) (Walk.gatherText x)
      (fun _ w => Reading s r w rest ∧ visible (String.join w.pending.toList) ≠ []) (Admitted s r) := by
  rcases lineFeed_cases x with hNone | ⟨pre, post, hPre, hx'⟩
  · rw [gatherText_of_not_mem hNone]
    refine Triple.modify fun _ hw => ⟨hw.push hNone, ?_⟩
    have hShown : visible (String.ofList x) ≠ [] := by
      obtain ⟨c, hLast, -⟩ := hx
      rw [← shape_eq_visible hNone]
      exact List.ne_nil_of_mem (List.mem_of_getLast? hLast)
    simp only [Array.toList_push, String.join_append, String.join_cons, String.join_nil,
      String.append_empty, visible_append]
    simp [hShown]
  · rw [hx'] at hx
    rw [hx', gatherText_append hPre]
    simp only [List.append_assoc, List.cons_append]
    exact (pushPending hPre).bind fun _ =>
      (Reading.nextLine.mono (fun _ hw => hw) (fun _ _ hw => hw.1)).bind fun _ =>
        gatherText post hx.of_lineFeed rest
termination_by x.length
decreasing_by simp only [hx', List.length_append, List.length_cons]; omega

theorem advance {t : Token} (hSolid : t.Solid) (rest : List Char) :
    Triple (Reading s r · (t.text.toList ++ rest)) (Walk.advance t)
      (fun _ w => Reading s r w rest ∧ (w.pending ≠ #[] → visible (String.join w.pending.toList) ≠ []))
      (Admitted s r) := by
  cases hNewline : t.isNewline with
  | true =>
    have hText : t.text.toList = ['\n'] := by
      simp only [Token.isNewline, beq_iff_eq] at hNewline
      simp [hNewline]
    rw [advance_newline hNewline, hText, List.singleton_append]
    exact Reading.nextLine.bind fun _ =>
      Triple.modify fun _ hw => ⟨hw.1.frame rfl rfl rfl, fun hne => absurd hw.2 hne⟩
  | false =>
    have hx : EndsVisible t.text.toList := hSolid.resolve_left (by simp [hNewline])
    rw [advance_other hNewline]
    refine Triple.bind ?_ fun _ =>
      (gatherText _ hx rest).mono (fun _ hw => hw) (fun _ _ hw => ⟨hw.1, fun _ => hw.2⟩)
    split
    · exact Triple.pure fun _ hw => hw
    · exact Triple.modify fun _ hw => hw.frame rfl rfl rfl

end Reading

/-- What the walk has read of `r` beside the tokens of `s` when it ends: the lines are the
physical lines of `r`, numbered from one; line for line they show the visible characters of
the physical lines of `s`, a missing line counting as empty; and the texts have as many
lines, or one more or one fewer. -/
structure ReadAll (s r : String) (L : List SourceLine) : Prop where
  texts : L.map SourceLine.text = physicalLines r
  numbered : L.map SourceLine.number = (List.range L.length).map fun i : Nat => (i : Int) + 1
  visible_eq : ∀ k, visible ((physicalLines r).getD k "") = visible ((physicalLines s).getD k "")
  length_le : (physicalLines r).length ≤ (physicalLines s).length + 1
  length_ge : (physicalLines s).length ≤ (physicalLines r).length + 1

theorem ReadAll.of_last {w : Walk} {ls X : List String} {u : List Char} {lines : List SourceLine}
    (hu : '\n' ∉ u) (hTexts : w.lines.toList.map SourceLine.text = physicalLines r)
    (hNumbered : w.lines.toList.map SourceLine.number =
      (List.range w.lines.size).map fun i : Nat => (i : Int) + 1)
    (hS : physicalLines s = ls ++ physicalLinesOf u)
    (hVisible : ls.map visible = lines.map fun l => visible l.text)
    (hLines : w.lines.toList.map SourceLine.text = lines.map SourceLine.text ++ X)
    (hX : X.length ≤ 1) (hLast : ∀ k, visible (X.getD k "") = if k = 0 then shape u else []) :
    ReadAll s r w.lines.toList := by
  have hR : physicalLines r = lines.map SourceLine.text ++ X := hTexts.symm.trans hLines
  have hAB : (lines.map SourceLine.text).map visible = ls.map visible := by
    rw [hVisible, List.map_map]
    rfl
  have hLength : ls.length = lines.length := by simpa using congrArg List.length hVisible
  have hRest := length_physicalLinesOf_le hu
  refine ⟨hTexts, by simpa using hNumbered, ?_, ?_, ?_⟩
  · intro k
    rw [hR, hS]
    exact visible_getD_append hAB (fun k => by rw [hLast, visible_getD_physicalLinesOf hu]) k
  · rw [hR, hS, List.length_append, List.length_append, List.length_map]
    omega
  · rw [hR, hS, List.length_append, List.length_append, List.length_map]
    omega

/-- Between tokens: `Reading` with the text of the tokens `ts` left, pending text that shows
a character if there is any, and tokens left that are `Solid`. -/
structure Tracks (s r : String) (w : Walk) (ts : List Token) : Prop extends
    Reading s r w (tokenText ts) where
  pending_visible : w.pending ≠ #[] → visible (String.join w.pending.toList) ≠ []
  solid : ∀ t ∈ ts, t.Solid

namespace Tracks

theorem advance (t : Token) (ts : List Token) :
    Triple (Tracks s r · (t :: ts)) (Walk.advance t) (fun _ w => Tracks s r w ts) (Admitted s r) := by
  refine Triple.of_pre (fun _ hw => hw.solid) fun hSolid => ?_
  exact (Reading.advance (hSolid t List.mem_cons_self) (tokenText ts)).mono
    (fun _ hw => by simpa using hw.toReading)
    (fun _ _ hw => ⟨hw.1, hw.2, fun u hu => hSolid u (List.mem_cons_of_mem t hu)⟩)

theorem lineInvariant : LineInvariant (Tracks s r) (Admitted s r) where
  frame hw hu hl hp := ⟨hw.toReading.frame hu hl hp, by rw [hp]; exact hw.pending_visible, hw.solid⟩
  advance := advance
  declarationFault _ h := .inr h

theorem start {T : List Token} (hT : Lexes s.toList T) (registry : Registry) (file : String) :
    Tracks s r (Walk.start r registry file) T where
  reads := by simp [Walk.start, physicalLines]
  unread_eq := rfl
  numbered := rfl
  agrees := ⟨[], by simp [Walk.start, physicalLines], rfl⟩
  pending_line := by simp [Walk.start]
  covers := by simpa [Walk.start] using Lexes.covers hT
  pending_visible := by simp [Walk.start]
  solid := Lexes.solid hT

theorem finish :
    Triple (Tracks s r · []) Walk.finish (fun _ w => ReadAll s r w.lines.toList) (Admitted s r) := by
  intro w hw
  have hNone := lineFeed_not_mem_join hw.pending_line
  have hCovers : Covers (String.join w.pending.toList).toList (dropLines w.lines.size s.toList) := by
    simpa using hw.covers
  obtain ⟨hu, hShape⟩ := Covers.final hNone hCovers
  obtain ⟨ls, hS, hVisible⟩ := hw.agrees
  rw [run_finish]
  by_cases hDone : w.unread = [] ∧ w.pending = #[]
  · rw [if_pos hDone]
    have hTexts : w.lines.toList.map SourceLine.text = physicalLines r := by
      simpa [hDone.1] using hw.reads
    have hLast : ∀ k, visible (([] : List String).getD k "") =
        if k = 0 then shape (dropLines w.lines.size s.toList) else [] := by
      intro k
      rw [← hShape, hDone.2]
      cases k <;> rfl
    exact ReadAll.of_last hu hTexts hw.numbered hS hVisible (by simp) (by simp) hLast
  · rw [if_neg hDone]
    by_cases hSame : visible (String.ofList (dropReturn (splitLine w.unread).1)) =
        visible (String.join w.pending.toList)
    · rw [if_pos hSame]
      have hne : w.unread ≠ [] := by
        intro hEmpty
        apply hw.pending_visible fun hp => hDone ⟨hEmpty, hp⟩
        rw [← hSame, hEmpty]
        rfl
      by_cases hRest : (splitLine w.unread).2 = []
      · rw [if_pos hRest]
        have hTexts := hw.reads_completeLine hne
        rw [completeLine_unread, hRest, physicalLinesOf_nil, List.append_nil] at hTexts
        have hLast : ∀ k, visible (([String.ofList (dropReturn (splitLine w.unread).1)]).getD k "") =
            if k = 0 then shape (dropLines w.lines.size s.toList) else [] := by
          intro k
          cases k with
          | zero =>
            rw [List.getD_cons_zero, if_pos rfl, hSame, ← hShape, shape_eq_visible hNone,
              String.ofList_toList]
          | succ k => simp [visible]
        exact ReadAll.of_last hu hTexts hw.numbered_completeLine hS hVisible (by simp) (by simp) hLast
      · rw [if_neg hRest]
        refine .inl ?_
        rintro rfl
        apply hRest
        rw [hw.unread_eq, splitLine_of_not_mem hu]
    · rw [if_neg hSame]
      refine .inl ?_
      rintro rfl
      apply hSame
      rw [visible_readLine, hw.unread_eq, splitLine_of_not_mem hu, ← hShape, shape_eq_visible hNone,
        String.ofList_toList]

end Tracks

theorem run_reads {T : List Token} (hT : Lexes s.toList T) (registry : Registry) (file : String) :
    Triple (· = Walk.start r registry file) (Walk.run T) (fun _ w => ReadAll s r w.lines.toList)
      (Admitted s r) :=
  (Tracks.lineInvariant.run Tracks.finish T).mono (fun _ hw => hw ▸ Tracks.start hT registry file)
    (fun _ _ hw => hw)

theorem getLastD_eq_getD {α : Type} {l : List α} {n : Nat} (h : l.length = n + 1) (d : α) :
    l.getLastD d = l.getD n d := by
  obtain ⟨init, a, rfl⟩ := (List.eq_nil_or_concat l).resolve_left (by rintro rfl; simp at h)
  rw [List.concat_eq_append, List.length_append, List.length_singleton] at h
  rw [List.concat_eq_append, List.getLastD_concat, List.getD_append_right _ _ _ _ (by omega),
    Nat.add_right_cancel h, Nat.sub_self, List.getD_cons_zero]

theorem ReadAll.length_eq {L : List SourceLine} (h : ReadAll s r L) :
    (physicalLines r).length = (physicalLines s).length ∨
      ((physicalLines r).length = (physicalLines s).length + 1 ∧
        visible ((physicalLines r).getLastD "") = []) ∨
      ((physicalLines s).length = (physicalLines r).length + 1 ∧
        visible ((physicalLines s).getLastD "") = []) := by
  have hBlank : visible "" = [] := rfl
  rcases Nat.lt_trichotomy (physicalLines r).length (physicalLines s).length with hLt | hEq | hGt
  · have hLength : (physicalLines s).length = (physicalLines r).length + 1 := by
      have := h.length_ge
      omega
    refine .inr (.inr ⟨hLength, ?_⟩)
    rw [getLastD_eq_getD hLength, ← h.visible_eq, List.getD_eq_default _ _ (le_refl _), hBlank]
  · exact .inl hEq
  · have hLength : (physicalLines r).length = (physicalLines s).length + 1 := by
      have := h.length_le
      omega
    refine .inr (.inl ⟨hLength, ?_⟩)
    rw [getLastD_eq_getD hLength, h.visible_eq, List.getD_eq_default _ _ (le_refl _), hBlank]

end Walk

theorem classifyLines_reads {s r : String} {T : List Token} (hT : Lexes s.toList T)
    (registry : Registry) (file : String) :
    match (classifyLines T r registry file).lines with
    | .ok L => Walk.ReadAll s r L
    | .error e => Walk.Admitted s r e := by
  have hRun := Walk.run_reads (r := r) hT registry file _ rfl
  unfold classifyLines
  cases hWalk : (Walk.run T).run (Walk.start r registry file) with
  | ok _ w =>
    rw [hWalk] at hRun
    exact hRun
  | error e w =>
    rw [hWalk] at hRun
    exact hRun

/-- On its own text, the walk completes exactly the physical lines, numbered from one, and
fails only in a declaration. -/
theorem classifyLines_own_text {s : String} {T : List Token} (hT : lex s = .ok T)
    (registry : Registry) (file : String) :
    (∀ L, (classifyLines T s registry file).lines = .ok L →
      L.map SourceLine.text = physicalLines s ∧
        L.map SourceLine.number = (List.range L.length).map fun i : Nat => (i : Int) + 1) ∧
    (∀ e, (classifyLines T s registry file).lines = .error e → e.isDeclaration = true) := by
  have hRead := classifyLines_reads (r := s) (lexes_of_lex hT) registry file
  refine ⟨fun L hL => ?_, fun e he => ?_⟩
  · rw [hL] at hRead
    exact ⟨hRead.texts, hRead.numbered⟩
  · rw [he] at hRead
    exact hRead.resolve_left fun hDiffer => hDiffer rfl

theorem classifyLines_own_text_comment :
    lex "/* a\n b */\nclass A\n" = .ok [⟨.blockComment, "/* a\n b */"⟩, Token.newline,
      ⟨.word, "class"⟩, ⟨.word, "A"⟩, Token.newline] ∧
    ((∀ L, (classifyLines [⟨.blockComment, "/* a\n b */"⟩, Token.newline, ⟨.word, "class"⟩,
        ⟨.word, "A"⟩, Token.newline] "/* a\n b */\nclass A\n" Registry.empty "A.cs").lines = .ok L →
      L.map SourceLine.text = physicalLines "/* a\n b */\nclass A\n" ∧
        L.map SourceLine.number = (List.range L.length).map fun i : Nat => (i : Int) + 1) ∧
    (∀ e, (classifyLines [⟨.blockComment, "/* a\n b */"⟩, Token.newline, ⟨.word, "class"⟩,
        ⟨.word, "A"⟩, Token.newline] "/* a\n b */\nclass A\n" Registry.empty "A.cs").lines =
          .error e → e.isDeclaration = true)) :=
  have hT : lex "/* a\n b */\nclass A\n" = .ok [⟨.blockComment, "/* a\n b */"⟩, Token.newline,
      ⟨.word, "class"⟩, ⟨.word, "A"⟩, Token.newline] :=
    eq_ok_of_toOption (by decide +kernel)
  ⟨hT, classifyLines_own_text hT Registry.empty "A.cs"⟩

/-- A text the walk accepts beside the tokens of `s` has its physical lines as the lines,
numbered from one; line for line they show what the lines of `s` show, a missing line
counting as empty; and the texts have as many lines, or one has one more, of blanks only. -/
theorem classifyLines_second_read {s r : String} {T : List Token} (hT : lex s = .ok T)
    {registry : Registry} {file : String} {L : List SourceLine}
    (hL : (classifyLines T r registry file).lines = .ok L) :
    L.map SourceLine.text = physicalLines r ∧
    L.map SourceLine.number = (List.range L.length).map (fun i : Nat => (i : Int) + 1) ∧
    (∀ k, visible ((physicalLines r).getD k "") = visible ((physicalLines s).getD k "")) ∧
    ((physicalLines r).length = (physicalLines s).length ∨
      ((physicalLines r).length = (physicalLines s).length + 1 ∧
        visible ((physicalLines r).getLastD "") = []) ∨
      ((physicalLines s).length = (physicalLines r).length + 1 ∧
        visible ((physicalLines s).getLastD "") = [])) := by
  have hRead := classifyLines_reads (r := r) (lexes_of_lex hT) registry file
  rw [hL] at hRead
  exact ⟨hRead.texts, hRead.numbered, hRead.visible_eq, hRead.length_eq⟩

theorem classifyLines_second_read_blank_line :
    lex "a\n" = .ok [⟨.word, "a"⟩, Token.newline] ∧
    (classifyLines [⟨.word, "a"⟩, Token.newline] "a \n  " Registry.empty "A.cs").lines =
      .ok [⟨.code, "a ", 1⟩, ⟨.code, "  ", 2⟩] ∧
    ([⟨.code, "a ", 1⟩, ⟨.code, "  ", 2⟩] : List SourceLine).map SourceLine.text = physicalLines "a \n  " ∧
    ([⟨.code, "a ", 1⟩, ⟨.code, "  ", 2⟩] : List SourceLine).map SourceLine.number =
      (List.range 2).map (fun i : Nat => (i : Int) + 1) ∧
    (∀ k, visible ((physicalLines "a \n  ").getD k "") = visible ((physicalLines "a\n").getD k "")) ∧
    ((physicalLines "a \n  ").length = (physicalLines "a\n").length ∨
      ((physicalLines "a \n  ").length = (physicalLines "a\n").length + 1 ∧
        visible ((physicalLines "a \n  ").getLastD "") = []) ∨
      ((physicalLines "a\n").length = (physicalLines "a \n  ").length + 1 ∧
        visible ((physicalLines "a\n").getLastD "") = [])) :=
  have hT : lex "a\n" = .ok [⟨.word, "a"⟩, Token.newline] := eq_ok_of_toOption (by decide +kernel)
  have hL : (classifyLines [⟨.word, "a"⟩, Token.newline] "a \n  " Registry.empty "A.cs").lines.toOption =
      some [⟨.code, "a ", 1⟩, ⟨.code, "  ", 2⟩] := by decide +kernel
  ⟨hT, eq_ok_of_toOption hL, classifyLines_second_read hT (eq_ok_of_toOption hL)⟩

end Weave
