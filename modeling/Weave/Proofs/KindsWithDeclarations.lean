import Weave.Proofs.DeclaredNames

/-! # The kind of each line on texts with declarations

The main loop of the walk classifies every token it reaches, but the scan of a declaration
consumes a name and the generic block after it without classifying them. On the keyword's
own line that changes nothing, since the keyword has already made the line a code line;
after a line feed token it does. So the kinds follow the rule of `FollowsReference` on every
text whose declaration scans consume no line feed token (`ScanStaysOnLine`), and
`classifyLines_declared_name_line` shows a text where a scan consumes one and the rule fails.
-/

namespace Weave

open Weave.Walk

set_option autoImplicit false

/-- The scan of the declaration read from the keyword `k`, after the tokens `P` and before
the tokens `ts`, consumes no line feed token: the name of a class, a struct or a delegate
starts on its keyword's line, unless a struct has no name there, and the generic block after
the name holds no line feed token. A class or a struct after a code token ending with `:` is
a constraint and reads nothing; an enum or an interface reads only line feed tokens, as the
main loop does. -/
def ScanStaysOnLine (P : List Token) (k : Token) (ts : List Token) : Prop :=
  (k.text = "class" ∨ k.text = "struct") ∧ NoColonBefore P ∨ k.text = "delegate" →
    ∀ t r, ts = t :: r → k.text = "struct" ∧ t.isNewline = true ∨
      t.isNewline = false ∧ ∀ G rest g, r = G ++ rest → GenericFront G rest g →
        ∀ u ∈ G, u.isNewline = false

section Scans

variable {P ts : List Token} {k : Token}

theorem ScanStaysOnLine.head (hScan : ScanStaysOnLine P k ts)
    (hScans : (k.text = "class" ∨ k.text = "struct") ∧ NoColonBefore P ∨ k.text = "delegate")
    (hStruct : k.text ≠ "struct") : ∀ n r, ts = n :: r → n.isNewline = false := by
  intro n r hts
  rcases hScan hScans n r hts with ⟨h, -⟩ | ⟨h, -⟩
  · exact absurd h hStruct
  · exact h

theorem ScanStaysOnLine.named {G rest : List Token} {t : Token} {g : String}
    (hScan : ScanStaysOnLine P k ts)
    (hScans : (k.text = "class" ∨ k.text = "struct") ∧ NoColonBefore P ∨ k.text = "delegate")
    (hts : ts = t :: (G ++ rest)) (ht : t.isNewline = false) (hG : GenericFront G rest g) :
    ∀ u ∈ t :: G, u.isNewline = false := by
  rcases hScan hScans t (G ++ rest) hts with ⟨-, h⟩ | ⟨-, hBlock⟩
  · rw [ht] at h
    cases h
  · intro u hu
    rcases List.mem_cons.1 hu with rfl | hu
    · exact ht
    · exact hBlock G rest g rfl hG u hu

theorem scanStaysOnLine_of_text {P ts : List Token} {k : Token}
    (hk : k.text ≠ "class" ∧ k.text ≠ "struct" ∧ k.text ≠ "delegate") : ScanStaysOnLine P k ts := by
  rintro (⟨h | h, -⟩ | h) <;> simp_all

end Scans

theorem Walk.ClosesBlock.unique {n : Nat} {B B' rest rest' : List Token} (h : ClosesBlock n B)
    (h' : ClosesBlock n B') (hEq : B ++ rest = B' ++ rest') : B = B' := by
  induction h generalizing B' with
  | @close t ht =>
    cases h' with
    | @close t' ht' => simp_all
    | @deeper _ t' G' ht' _ => simp_all
    | @other _ t' G' hOpen hClose _ => simp_all
  | @deeper n t G ht hG ih =>
    cases h' with
    | @close t' ht' => simp_all
    | @deeper _ t' G' ht' hG' =>
      obtain ⟨rfl, hRest⟩ := List.cons.inj hEq
      rw [ih hG' hRest]
    | @shallower _ t' G' ht' _ => simp_all
    | @other _ t' G' hOpen hClose _ => simp_all
  | @shallower n t G ht hG ih =>
    cases h' with
    | @deeper _ t' G' ht' _ => simp_all
    | @shallower _ t' G' ht' hG' =>
      obtain ⟨rfl, hRest⟩ := List.cons.inj hEq
      rw [ih hG' hRest]
    | @other _ t' G' hOpen hClose _ => simp_all
  | @other n t G hOpen hClose hG ih =>
    cases h' with
    | @close t' ht' => simp_all
    | @deeper _ t' G' ht' _ => simp_all
    | @shallower _ t' G' ht' _ => simp_all
    | @other _ t' G' hOpen' hClose' hG' =>
      obtain ⟨rfl, hRest⟩ := List.cons.inj hEq
      rw [ih hG' hRest]

/-- The generic block at the front of a list of tokens is the same however the list is
parted. -/
theorem Walk.GenericFront.unique {G G' rest rest' : List Token} {g g' : String}
    (h : GenericFront G rest g) (h' : GenericFront G' rest' g') (hEq : G ++ rest = G' ++ rest') :
    G = G' := by
  rcases h with ⟨rfl, hHead, -⟩ | ⟨t, B, rfl, ht, hB, -⟩ <;>
    rcases h' with ⟨rfl, hHead', -⟩ | ⟨t', B', rfl, ht', hB', -⟩
  · rfl
  · simp only [List.nil_append] at hEq
    simp [hEq, ht'] at hHead
  · simp only [List.nil_append] at hEq
    simp [← hEq, ht] at hHead'
  · obtain ⟨rfl, hRest⟩ := List.cons.inj hEq
    rw [hB.unique hB' hRest]

namespace Marks

/-- The line left open is a code line: a token other than a comment has started on it. -/
def InCode (m : Marks) : Prop :=
  m.atLineStart = false ∧ m.inComment = false

section InCode

variable {m : Marks} {t : Token}

theorem InCode.classify (h : m.InCode) (c : Bool) : m.classify c = m := by
  obtain ⟨hStart, hComment⟩ := h
  cases m
  simp_all [Marks.classify]

theorem InCode.consume (h : m.InCode) (ht : t.isNewline = false) : (m.consume t).InCode := by
  rw [Marks.consume, if_neg (by simp [ht])]
  exact h

theorem InCode.step (h : m.InCode) (ht : t.isNewline = false) : m.step t = m.consume t := by
  rw [Marks.step, if_neg (by simp [ht]), h.classify]

theorem InCode.foldl_consume (h : m.InCode) {C : List Token} (hC : ∀ u ∈ C, u.isNewline = false) :
    C.foldl Marks.consume m = C.foldl Marks.step m := by
  induction C generalizing m with
  | nil => rfl
  | cons u C ih =>
    have hu := hC u List.mem_cons_self
    rw [List.foldl_cons, List.foldl_cons, h.step hu]
    exact ih (h.consume hu) fun v hv => hC v (List.mem_cons_of_mem u hv)

end InCode

theorem foldl_consume_of_newlines {N : List Token} (hN : ∀ n ∈ N, n.isNewline = true) (m : Marks) :
    N.foldl consume m = N.foldl step m := by
  induction N generalizing m with
  | nil => rfl
  | cons n N ih =>
    rw [List.foldl_cons, List.foldl_cons, step, if_pos (hN n List.mem_cons_self)]
    exact ih (fun v hv => hN v (List.mem_cons_of_mem n hv)) _

theorem keyword_code {s : String} (h : Walk.isDeclKeyword s = true) :
    s ≠ "\n" ∧ (TokenKind.ofText s).isComment = false := by
  simp only [Walk.isDeclKeyword, Bool.or_eq_true, beq_iff_eq] at h
  rcases h with (((h | h) | h) | h) | h <;> subst h <;> decide

theorem InCode.step_keyword {k : Token} (hk : Walk.isDeclKeyword k.text = true) (m : Marks) :
    (m.step k).InCode := by
  obtain ⟨hText, hComment⟩ := keyword_code hk
  have hNewline : k.isNewline = false := by simpa [Token.isNewline] using hText
  rw [Marks.step, if_neg (by simp [hNewline]), hComment]
  exact InCode.consume ⟨by simp [Marks.classify], by simp [Marks.classify]⟩ hNewline

end Marks

namespace Walk

theorem TrackInvariant.anyWalk : TrackInvariant (fun _ _ => True) (fun _ => True) where
  frame _ _ _ _ _ _ _ := trivial
  advance t _ w _ := by
    split <;> trivial
  malformed _ _ _ := trivial

theorem malformed_bind_any {α : Type} {P : Walk → Prop} {Q : α → Walk → Prop}
    {f : PUnit → WalkM α} : Triple P (Walk.malformed >>= f) Q (fun _ => True) := by
  intro w _
  simp only [Walk.malformed, bind_assoc, EStateM.run_bind, EStateM.run_get, EStateM.run_throw]

theorem marks_setKeyword (m : Marks) (keyword : String) :
    Triple (·.marks = m) (modify fun w => { w with keyword := keyword }) (fun _ w => w.marks = m)
      (fun _ => True) :=
  Triple.modify fun _ hw => hw

theorem marks_peek_head (m : Marks) (ts : List Token) :
    Triple (·.marks = m) (peek ts) (fun t w => w.marks = m ∧ ts.head? = some t) (fun _ => True) := by
  cases ts with
  | nil => exact malformed_bind_any
  | cons t ts => exact Triple.pure fun _ hw => ⟨hw, rfl⟩

theorem marks_peek (m : Marks) (ts : List Token) :
    Triple (·.marks = m) (peek ts) (fun _ w => w.marks = m) (fun _ => True) :=
  (marks_peek_head m ts).mono (fun _ hw => hw) fun _ _ hw => hw.1

theorem marks_register (m : Marks) (name : String) (kind : DeclKind) (line : Nat) :
    Triple (·.marks = m) (register name kind line) (fun _ w => w.marks = m) (fun _ => True) := by
  rw [Walk.register]
  split
  · exact Triple.pure fun _ hw => hw
  · intro w hw
    simp only [EStateM.run_bind, EStateM.run_get]
    cases w.registry.insert ⟨.str name, kind, .str w.file, .int line⟩ with
    | ok r => exact hw
    | error e => trivial

/-! ## What the scans consume -/

/-- The walk has consumed the tokens of `ts` before `rest` from the kinds `m`, without
classifying any of them. -/
def Consumed (m : Marks) (ts rest : List Token) (w : Walk) : Prop :=
  ∃ C, ts = C ++ rest ∧ w.marks = C.foldl Marks.consume m

section Consumed

variable (m : Marks) (ts : List Token)

theorem consumed_advance (t : Token) (rest : List Token) :
    Triple (Consumed m ts (t :: rest)) (advance t) (fun _ => Consumed m ts rest) (fun _ => True) := by
  rintro w ⟨C, hts, hw⟩
  have hStep := marks_advance _ t w hw
  cases hRun : (advance t).run w with
  | ok _ w' =>
    rw [hRun] at hStep
    refine ⟨C ++ [t], by simp [hts], ?_⟩
    rw [List.foldl_append]
    exact hStep
  | error _ _ => trivial

theorem consumed_skipNewlines : ∀ rest : List Token,
    Triple (Consumed m ts rest) (skipNewlines rest) (fun r => Consumed m ts r.1) (fun _ => True)
  | [] => by
    rw [Walk.skipNewlines]
    exact malformed_bind_any
  | t :: rest => by
    rw [Walk.skipNewlines]
    split
    · exact (consumed_advance m ts t rest).bind fun _ =>
        (consumed_skipNewlines rest).bind fun _ => Triple.pure fun _ hw => hw
    · exact Triple.pure fun _ hw => hw

theorem consumed_skipBlock (openText closeText : String) :
    ∀ (depth : Int) (parts : Array String) (rest : List Token),
      Triple (Consumed m ts rest) (skipBlock openText closeText depth parts rest)
        (fun r => Consumed m ts r.2.1) (fun _ => True)
  | _, _, [] => by
    rw [Walk.skipBlock]
    exact malformed_bind_any
  | depth, parts, t :: rest => by
    rw [Walk.skipBlock]
    apply (consumed_advance m ts t rest).bind
    intro _
    dsimp only
    split
    · exact (consumed_skipBlock openText closeText _ _ rest).bind fun _ => Triple.pure fun _ hw => hw
    · split
      · split
        · exact Triple.pure fun _ hw => hw
        · exact (consumed_skipBlock openText closeText _ _ rest).bind fun _ =>
            Triple.pure fun _ hw => hw
      · exact (consumed_skipBlock openText closeText _ _ rest).bind fun _ =>
          Triple.pure fun _ hw => hw

theorem consumed_skipGeneric (rest : List Token) :
    Triple (Consumed m ts rest) (skipGeneric rest) (fun r => Consumed m ts r.2.1) (fun _ => True) := by
  rw [Walk.skipGeneric]
  split
  · exact consumed_skipBlock m ts "<" ">" 0 #[] rest
  · exact Triple.pure fun _ hw => hw

theorem consumed_typeName (rest : List Token) :
    Triple (Consumed m ts rest) (typeName rest) (fun r => Consumed m ts r.2.2.1) (fun _ => True) := by
  rw [Walk.typeName]
  apply (consumed_skipNewlines m ts rest).bind
  rintro ⟨r, h⟩
  apply Triple.get.bind
  intro _
  cases r with
  | nil => exact malformed_bind_any
  | cons t r' =>
    exact (consumed_advance m ts t r').bind fun _ =>
      (consumed_skipGeneric m ts r').bind fun _ => Triple.pure fun _ hw => hw

end Consumed

theorem marks_skipNewlines (m : Marks) (ts : List Token) :
    Triple (·.marks = m) (skipNewlines ts)
      (fun r w => w.marks = (ts.takeWhile (·.isNewline)).foldl Marks.step m ∧
        r.1 = ts.dropWhile (·.isNewline)) (fun _ => True) := by
  have hConsumed : Triple (·.marks = m) (skipNewlines ts) (fun r => Consumed m ts r.1)
      (fun _ => True) :=
    (consumed_skipNewlines m ts ts).mono (fun _ hw => ⟨[], rfl, hw⟩) fun _ _ hw => hw
  have hShape : Triple (·.marks = m) (skipNewlines ts) _ (fun _ => True) :=
    (TrackInvariant.anyWalk.skipNewlines_dropWhile ts).mono (fun _ _ => trivial) fun _ _ hw => hw.2
  refine (hConsumed.and hShape).mono (fun _ hw => hw) ?_
  rintro r w ⟨⟨C, hC, hw⟩, hDrop⟩
  have hTake : C = ts.takeWhile (·.isNewline) := by
    have hEq : C ++ r.1 = ts.takeWhile (·.isNewline) ++ r.1 := by
      rw [← hC, hDrop, List.takeWhile_append_dropWhile]
    exact List.append_cancel_right hEq
  refine ⟨?_, hDrop⟩
  rw [hw, hTake, Marks.foldl_consume_of_newlines]
  exact fun n hn => List.all_eq_true.1 List.all_takeWhile n hn

theorem marks_skipGeneric (m : Marks) (ts : List Token) :
    Triple (·.marks = m) (skipGeneric ts)
      (fun r w => ∃ G, ts = G ++ r.2.1 ∧ GenericFront G r.2.1 r.1 ∧
        w.marks = G.foldl Marks.consume m) (fun _ => True) := by
  have hConsumed : Triple (·.marks = m) (skipGeneric ts) (fun r => Consumed m ts r.2.1)
      (fun _ => True) :=
    (consumed_skipGeneric m ts ts).mono (fun _ hw => ⟨[], rfl, hw⟩) fun _ _ hw => hw
  have hShape : Triple (·.marks = m) (skipGeneric ts) _ (fun _ => True) :=
    (TrackInvariant.anyWalk.skipGeneric_front ts).mono (fun _ _ => trivial) fun _ _ hw => hw.2
  refine (hConsumed.and hShape).mono (fun _ hw => hw) ?_
  rintro r w ⟨⟨C, hC, hw⟩, G, hts, hG⟩
  obtain rfl : C = G := List.append_cancel_right (hC.symm.trans hts)
  exact ⟨C, hts, hG, hw⟩

theorem marks_typeName (m : Marks) (ts : List Token) :
    Triple (·.marks = m) (typeName ts)
      (fun r w => ∃ N t G g, ts = N ++ t :: (G ++ r.2.2.1) ∧ (∀ n ∈ N, n.isNewline = true) ∧
        t.isNewline = false ∧ GenericFront G r.2.2.1 g ∧
        w.marks = (N ++ t :: G).foldl Marks.consume m) (fun _ => True) := by
  have hConsumed : Triple (·.marks = m) (typeName ts) (fun r => Consumed m ts r.2.2.1)
      (fun _ => True) :=
    (consumed_typeName m ts ts).mono (fun _ hw => ⟨[], rfl, hw⟩) fun _ _ hw => hw
  have hShape : Triple (·.marks = m) (typeName ts) _ (fun _ => True) :=
    (TrackInvariant.anyWalk.typeName_spec ts).mono (fun _ _ => trivial) fun _ _ hw => hw.2
  refine (hConsumed.and hShape).mono (fun _ hw => hw) ?_
  rintro r w ⟨⟨C, hC, hw⟩, N, t, G, hts, hN, ht, ⟨g, hG, -⟩, -⟩
  have hName : C = N ++ t :: G := by
    have hEq : C ++ r.2.2.1 = (N ++ t :: G) ++ r.2.2.1 := by
      rw [← hC]
      simpa using hts
    exact List.append_cancel_right hEq
  exact ⟨N, t, G, g, hts, hN, ht, hG, hName ▸ hw⟩

/-! ## A declaration leaves the kinds of the main loop -/

/-- The walk has gone through the tokens of `ts` before `rest` from the kinds `m` as the main
loop would, classifying each. -/
def Stepped (m : Marks) (ts rest : List Token) (w : Walk) : Prop :=
  ∃ C, ts = C ++ rest ∧ w.marks = C.foldl Marks.step m

theorem Triple.stepped {α : Type} {x : WalkM α}
    (hx : ∀ m', Triple (·.marks = m') x (fun _ w => w.marks = m') (fun _ => True))
    (m : Marks) (ts rest : List Token) :
    Triple (Stepped m ts rest) x (fun _ => Stepped m ts rest) (fun _ => True) := by
  rintro w ⟨C, hts, hw⟩
  exact (hx _).mono (fun _ h => h) (fun _ _ hw' => ⟨C, hts, hw'⟩) w hw

section Declaration

variable {P ts : List Token} {k : Token} {m : Marks}

theorem newlines_nil_of_head {N rest ts : List Token}
    (hHead : ∀ n r, ts = n :: r → n.isNewline = false) (hts : ts = N ++ rest)
    (hN : ∀ n ∈ N, n.isNewline = true) : N = [] := by
  cases N with
  | nil => rfl
  | cons n N =>
    have hFirst := hHead n _ hts
    rw [hN n List.mem_cons_self] at hFirst
    cases hFirst

theorem stepped_typeName {kind : DeclKind} (hm : m.InCode) (hScan : ScanStaysOnLine P k ts)
    (hScans : (k.text = "class" ∨ k.text = "struct") ∧ NoColonBefore P)
    (hHead : ∀ n r, ts = n :: r → n.isNewline = false)
    (f : String × Nat × Rest ts → WalkM (Rest ts))
    (hf : ∀ name line r, f (name, line, r) = (register name kind line >>= fun _ => pure r)) :
    Triple (·.marks = m) (typeName ts >>= f) (fun r => Stepped m ts r.1) (fun _ => True) := by
  refine (marks_typeName m ts).bind fun res => ?_
  obtain ⟨name, line, r⟩ := res
  rw [hf]
  refine Triple.bind ((Triple.stepped (marks_register · name kind line) m ts r.1).mono ?_
    fun _ _ hw => hw) fun _ => Triple.pure fun _ hw => hw
  rintro w ⟨N, t, G, g, hts, hN, ht, hG, hw⟩
  obtain rfl := newlines_nil_of_head hHead hts hN
  have hOnLine := hScan.named (.inl hScans) hts ht hG
  refine ⟨t :: G, by simpa using hts, ?_⟩
  rw [hw, List.nil_append, hm.foldl_consume hOnLine]

theorem stepped_declaration (hKeyword : isDeclKeyword k.text = true)
    (hScan : ScanStaysOnLine P k ts) (hm : m.InCode) :
    Triple (·.marks = m) (declaration k.text (lastCode P) ts) (fun r => Stepped m ts r.1)
      (fun _ => True) := by
  rw [Walk.declaration]
  refine Triple.bind (marks_setKeyword m k.text) fun _ => ?_
  split
  · exact Triple.pure fun _ hw => ⟨[], rfl, hw⟩
  rename_i hConstraint
  split
  · rename_i hClass
    have hk : k.text = "class" := by simpa using hClass
    have hAfter : NoColonBefore P :=
      noColonBefore_of_lastCode (by simpa [hClass] using hConstraint)
    exact stepped_typeName hm hScan ⟨.inl hk, hAfter⟩
      (hScan.head (.inl ⟨.inl hk, hAfter⟩) (by rw [hk]; decide)) _ fun _ _ _ => rfl
  split
  · rename_i hClass hStruct
    have hk : k.text = "struct" := by simpa using hStruct
    have hAfter : NoColonBefore P :=
      noColonBefore_of_lastCode (by simpa [hStruct] using hConstraint)
    apply (marks_peek_head m ts).bind
    intro t
    refine Triple.of_and fun hHead => ?_
    split
    · exact Triple.pure fun _ hw => ⟨[], rfl, hw⟩
    rename_i hNamed
    have ht : t.isNewline = false := by simp_all
    refine stepped_typeName hm hScan ⟨.inr hk, hAfter⟩ ?_ _ fun _ _ _ => rfl
    rintro n r rfl
    cases hHead
    exact ht
  split
  · refine (marks_skipNewlines m ts).bind fun r => Triple.of_and fun hDrop => ?_
    have hSplit : ts = ts.takeWhile (·.isNewline) ++ r.1 := by
      rw [hDrop, List.takeWhile_append_dropWhile]
    exact (marks_peek _ r.1).bind fun _ => Triple.get.bind fun _ =>
      (marks_register _ _ _ _).bind fun _ => Triple.pure fun _ hw => ⟨_, hSplit, hw⟩
  rename_i hClass hStruct hOther
  have hk : k.text = "delegate" := isDeclKeyword_delegate hKeyword hClass hStruct hOther
  have hHead := hScan.head (.inr hk) (by rw [hk]; decide)
  apply (marks_skipNewlines m ts).bind
  rintro ⟨r, h⟩
  refine Triple.of_and fun hDrop => ?_
  cases r with
  | nil => exact malformed_bind_any
  | cons t r' =>
    obtain ⟨N, hts, hN, ht⟩ := Token.split_dropWhile_isNewline hDrop.symm
    obtain rfl := newlines_nil_of_head hHead hts hN
    rw [List.nil_append] at hts
    have hTake : ts.takeWhile (·.isNewline) = [] := by
      rw [hts, List.takeWhile_cons_of_neg (by simp [ht])]
    rw [hTake, List.foldl_nil]
    apply (marks_advance m t).bind
    intro _
    split
    · exact Triple.pure fun _ hw => ⟨[t], hts, by rw [hw, List.foldl_cons, List.foldl_nil, hm.step ht]⟩
    have hGeneric : Triple (·.marks = m.consume t) (skipGeneric r') (fun g => Stepped m ts g.2.1)
        (fun _ => True) := by
      refine (marks_skipGeneric _ r').mono (fun _ hw => hw) ?_
      rintro g w ⟨G, hr', hG, hw⟩
      have hName : ts = t :: (G ++ g.2.1) := hts.trans (congrArg (t :: ·) hr')
      have hOnLine := hScan.named (.inr hk) hName ht hG
      refine ⟨t :: G, hName, ?_⟩
      rw [hw, (hm.consume ht).foldl_consume fun u hu => hOnLine u (List.mem_cons_of_mem t hu),
        List.foldl_cons, hm.step ht]
    refine hGeneric.bind fun g => ?_
    obtain ⟨_, r'', _⟩ := g
    exact (Triple.stepped (marks_peek · r'') m ts r'').bind fun _ => Triple.get.bind fun _ =>
      (Triple.stepped (marks_register · _ _ _) m ts r'').bind fun _ => Triple.pure fun _ hw => hw

end Declaration

/-! ## The whole walk -/

section Run

variable {T : List Token} {R : Registry}

theorem marks_declaring_advance (m : Marks) (t : Token) (ts : List Token) :
    Triple (fun w => w.marks = m ∧ Declaring T R w (t :: ts)) (advance t)
      (fun _ w => w.marks = m.consume t ∧ Declaring T R w ts) (fun _ => True) :=
  Triple.and ((marks_advance m t).mono (fun _ hw => hw.1) fun _ _ hw => hw)
    ((Declaring.advance t ts).mono (fun _ hw => hw.2) fun _ _ hw => hw)

theorem marks_declaring_classifyToken (m : Marks) (t : Token) (ts : List Token) (p : String) :
    Triple (fun w => w.marks = m ∧ Declaring T R w (t :: ts) ∧ w.previous = p) (classifyToken t)
      (fun c w => (w.marks = m.classify (TokenKind.ofText t.text).isComment ∧
        c = (m.atLineStart && (TokenKind.ofText t.text).isComment)) ∧ Declaring T R w (t :: ts))
      (fun _ => True) :=
  Triple.and ((marks_classifyToken m t).mono (fun _ hw => hw.1) fun _ _ hw => hw)
    ((Declaring.trackInvariant.classifyToken t (t :: ts) p).mono (fun _ hw => hw.2)
      fun _ _ hw => hw.1)

theorem marks_declaring_declaration {P ts : List Token} {t : Token} (hT : T = P ++ t :: ts)
    (hKeyword : isDeclKeyword t.text = true) (hStays : ScanStaysOnLine P t ts) (m : Marks) :
    Triple (fun w => w.marks = m.step t ∧ Declaring T R w ts) (declaration t.text (lastCode P) ts)
      (fun r w => Stepped (m.step t) ts r.1 w ∧ Declaring T R w r.1) (fun _ => True) :=
  Triple.and ((stepped_declaration hKeyword hStays (Marks.InCode.step_keyword hKeyword m)).mono
      (fun _ hw => hw.1) fun _ _ hw => hw)
    ((declaration_declares hT hKeyword).mono (fun _ hw => hw.2) fun _ _ hw => hw)

variable (hScan : ∀ P k ts, T = P ++ k :: ts → ScanStaysOnLine P k ts)
include hScan

theorem marks_run_stays : ∀ (ts : List Token) (m : Marks),
    Triple (fun w => w.marks = m ∧ Declaring T R w ts) (Walk.run ts)
      (fun _ w => w.marks = ts.foldl Marks.step m ∨ w.marks = (ts.foldl Marks.step m).complete 1)
      (fun _ => True) := by
  intro ts
  induction ts using Walk.run.induct with
  | case1 =>
    intro m
    rw [Walk.run]
    exact (marks_finish m).mono (fun _ hw => hw.1) fun _ _ hw => hw
  | case2 t ts hNewline ih =>
    intro m
    have hStep : m.step t = m.consume t := by rw [Marks.step, if_pos hNewline]
    rw [Walk.run, if_pos hNewline, List.foldl_cons, hStep]
    exact (marks_declaring_advance m t ts).bind fun _ => ih _
  | case3 t ts hNewline ihRest ih =>
    intro m
    rw [Walk.run, if_neg hNewline, List.foldl_cons]
    refine Triple.get_self.bind fun a => ?_
    have hBefore : ∀ w, (a = w ∧ w.marks = m ∧ Declaring T R w (t :: ts)) →
        ∃ P, T = P ++ t :: ts ∧ a.previous = lastCode P := by
      rintro w ⟨rfl, -, ⟨P, hT, hPrevious⟩, -⟩
      exact ⟨P, hT, hPrevious⟩
    refine Triple.of_pre hBefore fun hP => ?_
    obtain ⟨P, hT, hPrevious⟩ := hP
    refine Triple.bind ((marks_declaring_classifyToken m t ts (lastCode P)).mono
      (fun _ hw => ⟨hw.2.1, hw.2.2, hw.1 ▸ hPrevious⟩) fun _ _ hw => hw) fun isComment => ?_
    have hAdvance : Triple (fun w => (w.marks = m.classify (TokenKind.ofText t.text).isComment ∧
          isComment = (m.atLineStart && (TokenKind.ofText t.text).isComment)) ∧
          Declaring T R w (t :: ts))
        (advance t) (fun _ w => w.marks = m.step t ∧ Declaring T R w ts) (fun _ => True) := by
      rw [Marks.step, if_neg hNewline]
      exact (marks_declaring_advance _ t ts).mono (fun _ hw => ⟨hw.1.1, hw.2⟩) fun _ _ hw => hw
    by_cases hKeyword : isDeclKeyword t.text = true
    · refine Triple.of_pre (fun _ hw => hw.1.2) fun hValue => ?_
      rw [(Marks.keyword_code hKeyword).2, Bool.and_false] at hValue
      subst hValue
      rw [Bool.not_false, Bool.true_and, if_pos hKeyword, ← bind_assoc, hPrevious]
      refine (hAdvance.bind fun _ =>
        marks_declaring_declaration hT hKeyword (hScan P t ts hT) m).bind fun res => ?_
      obtain ⟨r, h⟩ := res
      rintro w ⟨⟨C, hts, hw⟩, hDeclaring⟩
      have hRest := ihRest r h (C.foldl Marks.step (m.step t)) w ⟨hw, hDeclaring⟩
      have hFold : r.foldl Marks.step (C.foldl Marks.step (m.step t)) = ts.foldl Marks.step (m.step t) := by
        rw [hts, List.foldl_append]
      rw [hFold] at hRest
      exact hRest
    · rw [if_neg (by simp [hKeyword])]
      exact hAdvance.bind fun _ => ih _

theorem classifyLines_marks {s : String} {p : String} {L : List SourceLine}
    (hL : (classifyLines T s R p).lines = .ok L) :
    L.map SourceLine.kind = (T.foldl Marks.step Marks.start).kinds ∨
      L.map SourceLine.kind = ((T.foldl Marks.step Marks.start).complete 1).kinds := by
  have hRun := marks_run_stays hScan T Marks.start (Walk.start s R p)
    ⟨rfl, Walk.declaring_start T s R p⟩
  unfold classifyLines at hL
  cases hWalk : (Walk.run T).run (Walk.start s R p) with
  | ok _ w =>
    rw [hWalk] at hL hRun
    have hLines : L = w.lines.toList := by
      simp only [Except.ok.injEq] at hL
      exact hL.symm
    rw [hLines]
    rcases hRun with hMarks | hMarks
    · exact .inl (congrArg Marks.kinds hMarks)
    · exact .inr (congrArg Marks.kinds hMarks)
  | error e w =>
    rw [hWalk] at hL
    cases hL

end Run

end Walk

/-- On every text whose declaration scans consume no line feed token, the kinds of the lines
the walk completes follow the rule: a line that opens fresh is a comment line exactly when
tokens start on it and all are comments, a blank one keeps the kind of the line before, and
a line that begins inside a token of several lines is a comment line exactly when the
token's first line is one and all tokens that start on it are comments. -/
theorem classifyLines_follows_reference {T : List Token}
    (hScan : ∀ P k ts, T = P ++ k :: ts → ScanStaysOnLine P k ts) {s : String} {R : Registry}
    {p : String} {L : List SourceLine} (hL : (classifyLines T s R p).lines = .ok L) :
    FollowsReference T (L.map SourceLine.kind) := by
  have hAgrees := Marks.agrees_foldl T
  rcases Walk.classifyLines_marks hScan hL with hKinds | hKinds
  · rw [hKinds]
    exact hAgrees.reference
  · rw [hKinds, Marks.complete_kinds, List.replicate_one]
    exact hAgrees.onLine.close hAgrees.reference (by rw [hAgrees.length])

theorem forall_splits_cons {Q : List Token → Token → List Token → Prop} {a : Token}
    {T : List Token} (hFirst : Q [] a T) (hRest : ∀ P k ts, T = P ++ k :: ts → Q (a :: P) k ts) :
    ∀ P k ts, a :: T = P ++ k :: ts → Q P k ts := by
  rintro (_ | ⟨b, P⟩) k ts hT
  · obtain ⟨rfl, rfl⟩ := List.cons.inj hT
    exact hFirst
  · obtain ⟨rfl, hTail⟩ := List.cons.inj hT
    exact hRest P k ts hTail

theorem forall_splits_nil {Q : List Token → Token → List Token → Prop} :
    ∀ P k ts, ([] : List Token) = P ++ k :: ts → Q P k ts := by
  intro P k ts hT
  simp at hT

def mapSource : String := "/* a\nb */ class Map<K> // c\n// d\nenum\nE\n"

def mapTokens : List Token :=
  [⟨.blockComment, "/* a\nb */"⟩, ⟨.word, "class"⟩, ⟨.word, "Map"⟩, ⟨.punctuation, "<"⟩,
    ⟨.word, "K"⟩, ⟨.punctuation, ">"⟩, ⟨.lineComment, "// c"⟩, Token.newline,
    ⟨.lineComment, "// d"⟩, Token.newline, ⟨.word, "enum"⟩, Token.newline, ⟨.word, "E"⟩,
    Token.newline]

/-- A class declared after a block comment, with its generic block on its line, and an enum
named on the line after its keyword: the kinds follow the rule. -/
theorem classifyLines_follows_reference_map :
    Token.lex mapSource = .ok mapTokens ∧
      (∀ P k ts, mapTokens = P ++ k :: ts → ScanStaysOnLine P k ts) ∧
      (classifyLines mapTokens mapSource Registry.empty "Map.cs").lines =
        .ok [⟨.comment, "/* a", 1⟩, ⟨.code, "b */ class Map<K> // c", 2⟩, ⟨.comment, "// d", 3⟩,
          ⟨.code, "enum", 4⟩, ⟨.code, "E", 5⟩] ∧
      FollowsReference mapTokens [.comment, .code, .comment, .code, .code] := by
  have hLex : Token.lex mapSource = .ok mapTokens := eq_ok_of_toOption (by decide +kernel)
  have hBlock : GenericFront [⟨.punctuation, "<"⟩, ⟨.word, "K"⟩, ⟨.punctuation, ">"⟩]
      [⟨.lineComment, "// c"⟩, Token.newline, ⟨.lineComment, "// d"⟩, Token.newline,
        ⟨.word, "enum"⟩, Token.newline, ⟨.word, "E"⟩, Token.newline] "<K>" :=
    .inr ⟨_, _, rfl, rfl, .other (by decide) (by decide) (.close rfl), by decide⟩
  have hClass : ScanStaysOnLine [⟨.blockComment, "/* a\nb */"⟩] ⟨.word, "class"⟩
      [⟨.word, "Map"⟩, ⟨.punctuation, "<"⟩, ⟨.word, "K"⟩, ⟨.punctuation, ">"⟩,
        ⟨.lineComment, "// c"⟩, Token.newline, ⟨.lineComment, "// d"⟩, Token.newline,
        ⟨.word, "enum"⟩, Token.newline, ⟨.word, "E"⟩, Token.newline] := by
    intro _ t r hts
    obtain ⟨rfl, rfl⟩ := List.cons.inj hts
    refine .inr ⟨by decide, fun G rest g hr hG => ?_⟩
    rw [Walk.GenericFront.unique hG hBlock hr.symm]
    decide
  have hScan : ∀ P k ts, mapTokens = P ++ k :: ts → ScanStaysOnLine P k ts := by
    refine forall_splits_cons (scanStaysOnLine_of_text (by decide)) (forall_splits_cons hClass ?_)
    repeat' refine forall_splits_cons (scanStaysOnLine_of_text (by decide)) ?_
    exact forall_splits_nil
  have hLines : (classifyLines mapTokens mapSource Registry.empty "Map.cs").lines =
      .ok [⟨.comment, "/* a", 1⟩, ⟨.code, "b */ class Map<K> // c", 2⟩, ⟨.comment, "// d", 3⟩,
        ⟨.code, "enum", 4⟩, ⟨.code, "E", 5⟩] :=
    eq_ok_of_toOption (by decide +kernel)
  exact ⟨hLex, hScan, hLines, classifyLines_follows_reference hScan hLines⟩

end Weave
