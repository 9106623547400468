import Weave.Source.Walk

/-! # Invariants of the line walk

A `Triple` says what a step of the walk does from the states satisfying a precondition:
it ends in a state satisfying a postcondition, or fails with a fault of a given kind. The
steps that complete lines are given as equations first: reading and checking a line, and
consuming a token, whose text is gathered piece by piece between its line feeds.
-/

namespace Weave

set_option autoImplicit false

/-- Whether a fault is one of reading declarations: the tokens end inside one, or a name
is declared twice. -/
def Fault.isDeclaration : Fault → Bool
  | .malformedDeclaration .. => true
  | .duplicateType .. => true
  | _ => false

theorem eq_ok_of_toOption {ε α : Type} {x : Except ε α} {a : α} (h : x.toOption = some a) :
    x = .ok a := by
  cases x <;> simp_all [Except.toOption]

namespace Walk

/-- From every state satisfying `P`, the step `x` ends with a value and a state satisfying
`Q`, or fails with a fault satisfying `E`. -/
def Triple {α : Type} (P : Walk → Prop) (x : WalkM α) (Q : α → Walk → Prop)
    (E : Fault → Prop) : Prop :=
  ∀ w, P w → match x.run w with
    | .ok a w' => Q a w'
    | .error e _ => E e

section Rules

variable {α β : Type} {P : Walk → Prop} {Q : α → Walk → Prop} {E : Fault → Prop}

theorem Triple.bind {R : α → Walk → Prop} {Q : β → Walk → Prop} {x : WalkM α}
    {f : α → WalkM β} (hx : Triple P x R E) (hf : ∀ a, Triple (R a) (f a) Q E) :
    Triple P (x >>= f) Q E := by
  intro w hw
  have hPost := hx w hw
  rw [EStateM.run_bind]
  cases hRun : x.run w with
  | ok a w' =>
    rw [hRun] at hPost
    exact hf a w' hPost
  | error e w' =>
    rw [hRun] at hPost
    exact hPost

theorem Triple.pure {a : α} (h : ∀ w, P w → Q a w) : Triple P (Pure.pure a) Q E :=
  fun w hw => h w hw

theorem Triple.get : Triple P (MonadState.get : WalkM Walk) (fun _ => P) E :=
  fun _ hw => hw

theorem Triple.modify {Q : PUnit → Walk → Prop} {f : Walk → Walk}
    (h : ∀ w, P w → Q () (f w)) : Triple P (modify f : WalkM PUnit) Q E :=
  fun w hw => h w hw

theorem Triple.of_pre {C : Prop} {x : WalkM α} (hC : ∀ w, P w → C) (h : C → Triple P x Q E) :
    Triple P x Q E :=
  fun w hw => h (hC w hw) w hw

theorem Triple.mono {P' : Walk → Prop} {Q' : α → Walk → Prop} {x : WalkM α}
    (h : Triple P x Q E) (hP : ∀ w, P' w → P w) (hQ : ∀ a w, Q a w → Q' a w) :
    Triple P' x Q' E := by
  intro w hw
  have hPost := h w (hP w hw)
  cases hRun : x.run w with
  | ok a w' =>
    rw [hRun] at hPost
    exact hQ a w' hPost
  | error e w' =>
    rw [hRun] at hPost
    exact hPost

theorem Triple.and {Q₁ Q₂ : α → Walk → Prop} {x : WalkM α} (h₁ : Triple P x Q₁ E)
    (h₂ : Triple P x Q₂ E) : Triple P x (fun a w => Q₁ a w ∧ Q₂ a w) E := by
  intro w hw
  have hPost₁ := h₁ w hw
  have hPost₂ := h₂ w hw
  cases hRun : x.run w with
  | ok a w' =>
    rw [hRun] at hPost₁ hPost₂
    exact ⟨hPost₁, hPost₂⟩
  | error e w' =>
    rw [hRun] at hPost₁
    exact hPost₁

theorem Triple.get_self : Triple P (MonadState.get : WalkM Walk) (fun a w => a = w ∧ P w) E :=
  fun _ hw => ⟨rfl, hw⟩

theorem Triple.of_and {C : Prop} {x : WalkM α} (h : C → Triple P x Q E) :
    Triple (fun w => P w ∧ C) x Q E :=
  fun w hw => h hw.2 w hw.1

end Rules

/-! ## Completing lines -/

theorem run_readLine (w : Walk) : readLine.run w =
    if w.unread = [] then .error (.sourceMismatch .fewerLines w.file w.nextNumber) w
    else .ok (String.ofList (dropReturn (splitLine w.unread).1))
      { w with unread := (splitLine w.unread).2 } := by
  by_cases h : w.unread = []
  · simp [readLine, h]
  · simp only [readLine, h, if_false, List.isEmpty_iff, EStateM.run_bind, EStateM.run_get]
    rfl

theorem run_checkLine (text : String) (w : Walk) : (checkLine text).run w =
    if Text.visible text = Text.visible (String.join w.pending.toList) then
      .ok () { w with
        pending := #[]
        lines := w.lines.push ⟨if w.inComment then .comment else .code, text, w.nextNumber⟩ }
    else .error (.sourceMismatch .lineDiffers w.file w.nextNumber) { w with pending := #[] } := by
  by_cases h : Text.visible text = Text.visible (String.join w.pending.toList)
  · simp [checkLine, h]
  · simp [checkLine, h]

def nextLine : WalkM Unit := do
  checkLine (← readLine)

/-- The walk once its next line is read and completed. -/
def completeLine (w : Walk) : Walk :=
  { w with
    unread := (splitLine w.unread).2
    pending := #[]
    lines := w.lines.push ⟨if w.inComment then .comment else .code,
      String.ofList (dropReturn (splitLine w.unread).1), w.nextNumber⟩ }

@[simp] theorem completeLine_unread (w : Walk) : w.completeLine.unread = (splitLine w.unread).2 := rfl

@[simp] theorem completeLine_pending (w : Walk) : w.completeLine.pending = #[] := rfl

@[simp] theorem completeLine_lines (w : Walk) :
    w.completeLine.lines = w.lines.push ⟨if w.inComment then .comment else .code,
      String.ofList (dropReturn (splitLine w.unread).1), w.nextNumber⟩ := rfl

theorem run_nextLine (w : Walk) : nextLine.run w =
    if w.unread = [] then .error (.sourceMismatch .fewerLines w.file w.nextNumber) w
    else if Text.visible (String.ofList (dropReturn (splitLine w.unread).1)) =
        Text.visible (String.join w.pending.toList) then .ok () w.completeLine
    else .error (.sourceMismatch .lineDiffers w.file w.nextNumber)
      { w with unread := (splitLine w.unread).2, pending := #[] } := by
  rw [nextLine, EStateM.run_bind, run_readLine]
  by_cases h : w.unread = []
  · simp [h]
  · simp only [h, if_false, run_checkLine]
    rfl

theorem run_finish (w : Walk) : finish.run w =
    if w.unread = [] ∧ w.pending = #[] then .ok () w
    else if Text.visible (String.ofList (dropReturn (splitLine w.unread).1)) =
        Text.visible (String.join w.pending.toList) then
      if (splitLine w.unread).2 = [] then .ok () w.completeLine
      else .error (.sourceMismatch .moreLines w.file w.completeLine.nextNumber) w.completeLine
    else .error (.sourceMismatch .lineDiffers w.file w.nextNumber)
      { w with unread := (splitLine w.unread).2, pending := #[] } := by
  by_cases hDone : w.unread = [] ∧ w.pending = #[]
  · simp [finish, hDone]
  · rw [if_neg hDone]
    have hRead : (!w.unread.isEmpty || !w.pending.isEmpty) = true := by
      by_cases hUnread : w.unread = []
      · simpa [hUnread, Array.isEmpty_iff] using hDone
      · simp [hUnread]
    simp only [finish, EStateM.run_bind, EStateM.run_get, hRead, if_true, EStateM.run_set]
    by_cases hSame : Text.visible (String.ofList (dropReturn (splitLine w.unread).1)) =
        Text.visible (String.join w.pending.toList)
    · have hCheck : (checkLine (String.ofList (dropReturn (splitLine w.unread).1))).run
          { w with unread := (splitLine w.unread).2 } = .ok () w.completeLine := by
        rw [run_checkLine, if_pos hSame]
        rfl
      rw [hCheck, if_pos hSame]
      simp only [completeLine_unread]
      by_cases hRest : (splitLine w.unread).2 = []
      · simp [hRest]
      · simp [hRest]
        rfl
    · rw [run_checkLine, if_neg hSame, if_neg hSame]
      rfl

def pushPending (p : List Char) : WalkM Unit :=
  modify fun w => { w with pending := w.pending.push (String.ofList p) }

/-- Gathers pieces that each end at a line feed: each completes a line. -/
def gatherPieces : List (List Char) → WalkM Unit
  | [] => pure ()
  | p :: ps => do
    pushPending p
    nextLine
    gatherPieces ps

/-- Gathers a token's text: the pieces before its line feeds each complete a line, and
the last piece joins the line that follows. -/
def gatherText (x : List Char) : WalkM Unit := do
  gatherPieces (x.splitOn '\n').dropLast
  pushPending ((x.splitOn '\n').getLastD [])

theorem gatherText_of_not_mem {x : List Char} (h : '\n' ∉ x) : gatherText x = pushPending x := by
  simp [gatherText, List.splitOn_eq_singleton h, gatherPieces]

theorem gatherText_append {pre post : List Char} (h : '\n' ∉ pre) :
    gatherText (pre ++ '\n' :: post) = (do
      pushPending pre
      nextLine
      gatherText post) := by
  have hSplit := List.splitOn_append_cons_self_of_not_mem h post
  obtain ⟨init, last, hLast⟩ := (List.eq_nil_or_concat _).resolve_left (List.splitOn_ne_nil '\n' post)
  rw [List.concat_eq_append] at hLast
  have hCons : pre :: (init ++ [last]) = (pre :: init) ++ [last] := rfl
  simp only [gatherText, hSplit, hLast, hCons, List.dropLast_concat, List.getLastD_concat,
    gatherPieces, bind_assoc]

theorem advance_newline {t : Token} (h : t.isNewline = true) :
    advance t = (do
      nextLine
      modify fun w => { w with atLineStart := true }) := by
  rw [advance, if_pos h, nextLine, bind_assoc]

theorem advance_other {t : Token} (h : t.isNewline = false) :
    advance t = (if (TokenKind.ofText t.text).isComment then pure ()
      else modify fun w => { w with previous := t.text }) >>= fun _ => gatherText t.text.toList := by
  have hLoop : ∀ ps : List (List Char), (forIn ps PUnit.unit fun piece _ => do
      modify fun w : Walk => { w with pending := w.pending.push (String.ofList piece) }
      checkLine (← readLine)
      pure (ForInStep.yield PUnit.unit) : WalkM PUnit) = gatherPieces ps := by
    intro ps
    induction ps with
    | nil => rfl
    | cons p ps ih =>
      simp only [List.forIn_cons, bind_assoc, pure_bind, ih, gatherPieces, pushPending, nextLine]
  rw [advance, if_neg (by simp [h])]
  simp only [hLoop, gatherText, pushPending]
  cases (TokenKind.ofText t.text).isComment <;> rfl

theorem insert_error_isDeclaration {r : Registry} {n f : String} {k : DeclKind} {l : Value}
    {e : Fault} (h : r.insert ⟨.str n, k, .str f, l⟩ = .error e) : e.isDeclaration = true := by
  simp only [Registry.insert, keyFault?_str] at h
  split at h
  · split at h <;> (cases h; rfl)
  · cases h

/-! ## Invariants of the remaining tokens -/

theorem Token.split_dropWhile_isNewline {ts r : List Token} {t : Token}
    (h : ts.dropWhile (·.isNewline) = t :: r) :
    ∃ N, ts = N ++ t :: r ∧ (∀ n ∈ N, n.isNewline = true) ∧ t.isNewline = false := by
  refine ⟨ts.takeWhile (·.isNewline), ?_, fun n hn => List.all_eq_true.1 List.all_takeWhile n hn, ?_⟩
  · rw [← h, List.takeWhile_append_dropWhile]
  · simpa [h] using List.head?_dropWhile_not (·.isNewline) ts

/-- An invariant of the walk and the tokens it has left that consuming a token keeps, and
changing only the two flags, the keyword and the last token, unless it fails with a fault
that `E` admits; `E` admits the fault of tokens that end inside a declaration. The scans of
a declaration's name and generic block are built from these steps alone. -/
structure TokenInvariant (I : Walk → List Token → Prop) (E : Fault → Prop) : Prop where
  frame : ∀ {w w' : Walk} {ts : List Token}, I w ts → w'.unread = w.unread →
    w'.lines = w.lines → w'.pending = w.pending → w'.registry = w.registry →
    w'.file = w.file → I w' ts
  advance : ∀ t ts, Triple (I · (t :: ts)) (advance t) (fun _ w => I w ts) E
  malformed : ∀ keyword file line, E (.malformedDeclaration keyword file line)

/-- An invariant like a `TokenInvariant` that may also look at the last token consumed:
changing only the two flags and the keyword keeps it. The walk hands that token to each
declaration it reads. -/
structure TrackInvariant (I : Walk → List Token → Prop) (E : Fault → Prop) : Prop where
  frame : ∀ {w w' : Walk} {ts : List Token}, I w ts → w'.unread = w.unread →
    w'.lines = w.lines → w'.pending = w.pending → w'.registry = w.registry →
    w'.file = w.file → w'.previous = w.previous → I w' ts
  advance : ∀ t ts, Triple (I · (t :: ts)) (advance t) (fun _ w => I w ts) E
  malformed : ∀ keyword file line, E (.malformedDeclaration keyword file line)

theorem TokenInvariant.toTrack {I : Walk → List Token → Prop} {E : Fault → Prop}
    (hI : TokenInvariant I E) : TrackInvariant I E where
  frame hw hUnread hLines hPending hRegistry hFile _ :=
    hI.frame hw hUnread hLines hPending hRegistry hFile
  advance := hI.advance
  malformed := hI.malformed

/-! ## Generic blocks -/

/-- `ClosesBlock n G`: the tokens `G` close a block of `<` and `>` that is open `n + 1`
levels deep, and end with the `>` that closes its outermost level. -/
inductive ClosesBlock : Nat → List Token → Prop
  | close {t : Token} (ht : t.text = ">") : ClosesBlock 0 [t]
  | deeper {n : Nat} {t : Token} {G : List Token} (ht : t.text = "<")
      (hG : ClosesBlock (n + 1) G) : ClosesBlock n (t :: G)
  | shallower {n : Nat} {t : Token} {G : List Token} (ht : t.text = ">")
      (hG : ClosesBlock n G) : ClosesBlock (n + 1) (t :: G)
  | other {n : Nat} {t : Token} {G : List Token} (hOpen : t.text ≠ "<") (hClose : t.text ≠ ">")
      (hG : ClosesBlock n G) : ClosesBlock n (t :: G)

def blockText (G : List Token) : String :=
  String.join ((G.filter fun t => !t.isNewline).map Token.text)

theorem blockText_cons (t : Token) (G : List Token) :
    blockText (t :: G) = (if t.isNewline then "" else t.text) ++ blockText G := by
  cases h : t.isNewline <;> simp [blockText, h, String.join_cons]

theorem join_gathered (parts : Array String) (t : Token) (G : List Token) :
    String.join (if t.isNewline then parts else parts.push t.text).toList ++ blockText G =
      String.join parts.toList ++ blockText (t :: G) := by
  rw [blockText_cons]
  cases h : t.isNewline <;> simp [String.join_append, String.append_assoc]

/-- `G` is the generic block at the front of `G ++ rest`, with the text `g`: nothing when
`rest` does not open with `<`; or else a `<` and the tokens that close the block it opens,
whose tokens other than line feeds make `g`. -/
def GenericFront (G rest : List Token) (g : String) : Prop :=
  (G = [] ∧ rest.head?.map Token.text ≠ some "<" ∧ g = "") ∨
    ∃ t B, G = t :: B ∧ t.text = "<" ∧ ClosesBlock 0 B ∧ g = blockText G

namespace TrackInvariant

variable {I : Walk → List Token → Prop} {E : Fault → Prop} (hI : TrackInvariant I E)
include hI

theorem malformed_bind {α : Type} {Q : α → Walk → Prop} {f : PUnit → WalkM α}
    {ts : List Token} : Triple (I · ts) (Walk.malformed >>= f) Q E := by
  intro w _
  simp only [Walk.malformed, bind_assoc, EStateM.run_bind, EStateM.run_get, EStateM.run_throw]
  exact hI.malformed _ _ _

theorem peek_head (ts rest : List Token) :
    Triple (I · rest) (Walk.peek ts) (fun t w => I w rest ∧ ts.head? = some t) E := by
  cases ts with
  | nil => exact hI.malformed_bind
  | cons t ts => exact Triple.pure fun _ hw => ⟨hw, rfl⟩

theorem peek (ts rest : List Token) : Triple (I · rest) (Walk.peek ts) (fun _ w => I w rest) E :=
  (hI.peek_head ts rest).mono (fun _ hw => hw) fun _ _ hw => hw.1

theorem skipNewlines_dropWhile : ∀ ts, Triple (I · ts) (Walk.skipNewlines ts)
    (fun r w => I w r.1 ∧ r.1 = ts.dropWhile (·.isNewline)) E
  | [] => by
    rw [Walk.skipNewlines]
    exact hI.malformed_bind
  | t :: ts => by
    rw [Walk.skipNewlines]
    split
    · rename_i hNewline
      rw [List.dropWhile_cons_of_pos hNewline]
      exact (hI.advance t ts).bind fun _ =>
        (skipNewlines_dropWhile ts).bind fun _ => Triple.pure fun _ hw => hw
    · rename_i hNewline
      rw [List.dropWhile_cons_of_neg hNewline]
      exact Triple.pure fun _ hw => ⟨hw, rfl⟩

theorem skipNewlines (ts : List Token) :
    Triple (I · ts) (Walk.skipNewlines ts) (fun r w => I w r.1) E :=
  (hI.skipNewlines_dropWhile ts).mono (fun _ hw => hw) fun _ _ hw => hw.1

theorem skipBlock (openText closeText : String) :
    ∀ (depth : Int) (parts : Array String) (ts : List Token),
      Triple (I · ts) (Walk.skipBlock openText closeText depth parts ts) (fun r w => I w r.2.1) E
  | _, _, [] => by
    rw [Walk.skipBlock]
    exact hI.malformed_bind
  | depth, parts, t :: ts => by
    rw [Walk.skipBlock]
    apply (hI.advance t ts).bind
    intro _
    dsimp only
    split
    · exact (skipBlock openText closeText _ _ ts).bind fun _ => Triple.pure fun _ hw => hw
    · split
      · split
        · exact Triple.pure fun _ hw => hw
        · exact (skipBlock openText closeText _ _ ts).bind fun _ => Triple.pure fun _ hw => hw
      · exact (skipBlock openText closeText _ _ ts).bind fun _ => Triple.pure fun _ hw => hw

theorem skipBlock_closes : ∀ (n : Nat) (parts : Array String) (ts : List Token),
    Triple (I · ts) (Walk.skipBlock "<" ">" ((n : Int) + 1) parts ts)
      (fun r w => I w r.2.1 ∧ ∃ G, ts = G ++ r.2.1 ∧ ClosesBlock n G ∧
        r.1 = String.join parts.toList ++ blockText G) E
  | _, _, [] => by
    rw [Walk.skipBlock]
    exact hI.malformed_bind
  | n, parts, t :: ts => by
    rw [Walk.skipBlock]
    apply (hI.advance t ts).bind
    intro _
    dsimp only
    split
    · rename_i hOpen
      simp only [show (n : Int) + 1 + 1 = ((n + 1 : Nat) : Int) + 1 by omega]
      refine (skipBlock_closes (n + 1) _ ts).bind fun r => Triple.pure fun _ hw => ?_
      obtain ⟨hw, G, hts, hG, hText⟩ := hw
      exact ⟨hw, t :: G, congrArg (t :: ·) hts, .deeper (beq_iff_eq.1 hOpen) hG,
        hText.trans (join_gathered parts t G)⟩
    split
    · rename_i hOpen hClose
      split
      · rename_i hLast
        have hn : n = 0 := by omega
        subst hn
        exact Triple.pure fun _ hw => ⟨hw, [t], rfl, .close (beq_iff_eq.1 hClose),
          String.append_empty.symm.trans (join_gathered parts t [])⟩
      · rename_i hInner
        obtain ⟨m, rfl⟩ : ∃ m, n = m + 1 := ⟨n - 1, by omega⟩
        simp only [show ((m + 1 : Nat) : Int) + 1 - 1 = (m : Int) + 1 by omega]
        refine (skipBlock_closes m _ ts).bind fun r => Triple.pure fun _ hw => ?_
        obtain ⟨hw, G, hts, hG, hText⟩ := hw
        exact ⟨hw, t :: G, congrArg (t :: ·) hts, .shallower (beq_iff_eq.1 hClose) hG,
          hText.trans (join_gathered parts t G)⟩
    · rename_i hOpen hClose
      refine (skipBlock_closes n _ ts).bind fun r => Triple.pure fun _ hw => ?_
      obtain ⟨hw, G, hts, hG, hText⟩ := hw
      exact ⟨hw, t :: G, congrArg (t :: ·) hts,
        .other (fun h => hOpen (beq_iff_eq.2 h)) (fun h => hClose (beq_iff_eq.2 h)) hG,
        hText.trans (join_gathered parts t G)⟩

theorem modify_frame {f : Walk → Walk}
    (hf : ∀ w, (f w).unread = w.unread ∧ (f w).lines = w.lines ∧ (f w).pending = w.pending ∧
      (f w).registry = w.registry ∧ (f w).file = w.file ∧ (f w).previous = w.previous)
    (ts : List Token) : Triple (I · ts) (modify f) (fun _ w => I w ts) E :=
  Triple.modify fun w hw =>
    hI.frame hw (hf w).1 (hf w).2.1 (hf w).2.2.1 (hf w).2.2.2.1 (hf w).2.2.2.2.1
      (hf w).2.2.2.2.2

theorem skipGeneric_front (ts : List Token) : Triple (I · ts) (Walk.skipGeneric ts)
    (fun r w => I w r.2.1 ∧ ∃ G, ts = G ++ r.2.1 ∧ GenericFront G r.2.1 r.1) E := by
  rw [Walk.skipGeneric]
  split
  · rename_i hOpen
    cases ts with
    | nil => cases hOpen
    | cons t ts =>
      have ht : t.text = "<" := by simpa using hOpen
      rw [Walk.skipBlock]
      apply (hI.advance t ts).bind
      intro _
      dsimp only
      rw [if_pos (beq_iff_eq.2 ht), show (0 : Int) + 1 = ((0 : Nat) : Int) + 1 from rfl]
      refine (hI.skipBlock_closes 0 _ ts).bind fun r => Triple.pure fun _ hw => ?_
      obtain ⟨hw, G, hts, hG, hText⟩ := hw
      refine ⟨hw, t :: G, congrArg (t :: ·) hts, .inr ⟨t, G, rfl, ht, hG, ?_⟩⟩
      exact hText.trans ((join_gathered #[] t G).trans String.empty_append)
  · rename_i hOpen
    exact Triple.pure fun _ hw => ⟨hw, [], rfl, .inl ⟨rfl, by simpa using hOpen, rfl⟩⟩

theorem skipGeneric_rest (ts : List Token) : Triple (I · ts) (Walk.skipGeneric ts)
    (fun r w => I w r.2.1 ∧ (r.2.1 = ts ∨ ts.head?.map Token.text = some "<")) E := by
  refine (hI.skipGeneric_front ts).mono (fun _ hw => hw) fun r _ hw => ⟨hw.1, ?_⟩
  obtain ⟨G, hts, ⟨rfl, -, -⟩ | ⟨t, B, rfl, ht, -, -⟩⟩ := hw.2
  · exact .inl hts.symm
  · exact .inr (by simp [hts, ht])

theorem skipGeneric (ts : List Token) :
    Triple (I · ts) (Walk.skipGeneric ts) (fun r w => I w r.2.1) E :=
  (hI.skipGeneric_rest ts).mono (fun _ hw => hw) fun _ _ hw => hw.1

theorem typeName_spec (ts : List Token) : Triple (I · ts) (Walk.typeName ts)
    (fun r w => I w r.2.2.1 ∧ ∃ N t G, ts = N ++ t :: (G ++ r.2.2.1) ∧
      (∀ n ∈ N, n.isNewline = true) ∧ t.isNewline = false ∧
      (∃ g, GenericFront G r.2.2.1 g ∧ r.1 = baseName t.text ++ g) ∧
      ∃ w', I w' (t :: (G ++ r.2.2.1)) ∧ r.2.1 = w'.nextNumber) E := by
  rw [Walk.typeName]
  apply (hI.skipNewlines_dropWhile ts).bind
  rintro ⟨r, h⟩
  apply Triple.get_self.bind
  intro w'
  cases r with
  | nil => exact hI.malformed_bind.mono (fun _ hw => hw.2.1) fun _ _ hw => hw
  | cons t r' =>
    have hBefore : ∀ w, (w' = w ∧ I w (t :: r') ∧ t :: r' = ts.dropWhile (·.isNewline)) →
        I w' (t :: r') ∧ t :: r' = ts.dropWhile (·.isNewline) :=
      fun w hw => ⟨hw.1 ▸ hw.2.1, hw.2.2⟩
    refine Triple.of_pre hBefore fun hFacts => ?_
    obtain ⟨hw', hDrop⟩ := hFacts
    obtain ⟨N, hts, hN, ht⟩ := Token.split_dropWhile_isNewline hDrop.symm
    refine ((hI.advance t r').mono (fun _ hw => hw.2.1) fun _ _ hw => hw).bind fun _ => ?_
    refine (hI.skipGeneric_front r').bind fun g => Triple.pure fun _ hw => ?_
    obtain ⟨hw, G, hr', hG⟩ := hw
    exact ⟨hw, N, t, G, hts.trans (congrArg (fun r => N ++ t :: r) hr'), hN, ht, ⟨g.1, hG, rfl⟩,
      w', hr' ▸ hw', rfl⟩

theorem typeName (ts : List Token) :
    Triple (I · ts) (Walk.typeName ts) (fun r w => I w r.2.2.1) E :=
  (hI.typeName_spec ts).mono (fun _ hw => hw) fun _ _ hw => hw.1

theorem classifyToken (t : Token) (ts : List Token) (p : String) :
    Triple (fun w => I w ts ∧ w.previous = p) (Walk.classifyToken t)
      (fun _ w => I w ts ∧ w.previous = p) E := by
  rintro w ⟨hw, hp⟩
  simp only [Walk.classifyToken, EStateM.run_bind, EStateM.run_get]
  by_cases hStart : (w.atLineStart && (TokenKind.ofText t.text).isComment) = true
  · rw [if_pos hStart]
    exact ⟨hI.frame hw rfl rfl rfl rfl rfl rfl, hp⟩
  · rw [if_neg hStart]
    exact ⟨hI.frame hw rfl rfl rfl rfl rfl rfl, hp⟩

theorem run_of_declaration {Q : Unit → Walk → Prop} (hFinish : Triple (I · []) finish Q E)
    (hDeclaration : ∀ t ts previous, isDeclKeyword t.text = true →
      Triple (fun w => I w (t :: ts) ∧ w.previous = previous)
        (Walk.advance t >>= fun _ => Walk.declaration t.text previous ts) (fun r w => I w r.1) E)
    (ts : List Token) : Triple (I · ts) (Walk.run ts) Q E := by
  induction ts using Walk.run.induct with
  | case1 =>
    rw [Walk.run]
    exact hFinish
  | case2 t ts hNewline ih =>
    rw [Walk.run, if_pos hNewline]
    exact (hI.advance t ts).bind fun _ => ih
  | case3 t ts hNewline ihRest ih =>
    rw [Walk.run, if_neg hNewline]
    have hGet : Triple (I · (t :: ts)) (MonadState.get : WalkM Walk)
        (fun a w => I w (t :: ts) ∧ w.previous = a.previous) E :=
      Triple.get_self.mono (fun _ hw => hw) fun _ _ hw => ⟨hw.2, hw.1 ▸ rfl⟩
    refine hGet.bind fun a => ?_
    apply (hI.classifyToken t (t :: ts) a.previous).bind
    intro isComment
    by_cases hStarts : (!isComment && isDeclKeyword t.text) = true
    · rw [if_pos hStarts, ← bind_assoc]
      have hKeyword : isDeclKeyword t.text = true := by
        rw [Bool.and_eq_true] at hStarts
        exact hStarts.2
      exact (hDeclaration t ts a.previous hKeyword).bind fun ⟨r, h⟩ => ihRest r h
    · rw [if_neg hStarts]
      exact ((hI.advance t ts).mono (fun _ hw => hw.1) fun _ _ hw => hw).bind fun _ => ih

end TrackInvariant

/-- An invariant of the walk and the tokens it has left that every step keeps unless it
fails with a fault that `E` admits: changing only the two flags, the keyword and the last
token keeps it, and so do consuming a token and adding a declaration; `E` admits the
faults of declarations. The scans of declarations and the main loop are built from these
steps alone, so such an invariant holds through the whole walk. -/
structure ScanInvariant (I : Walk → List Token → Prop) (E : Fault → Prop) : Prop where
  frame : ∀ {w w' : Walk} {ts : List Token}, I w ts → w'.unread = w.unread →
    w'.lines = w.lines → w'.pending = w.pending → w'.registry = w.registry →
    w'.file = w.file → I w' ts
  advance : ∀ t ts, Triple (I · (t :: ts)) (advance t) (fun _ w => I w ts) E
  register : ∀ name kind line ts,
    Triple (I · ts) (Walk.register name kind line) (fun _ w => I w ts) E
  declarationFault : ∀ e, e.isDeclaration = true → E e

namespace ScanInvariant

variable {I : Walk → List Token → Prop} {E : Fault → Prop} (hI : ScanInvariant I E)
include hI

theorem toTokenInvariant : TokenInvariant I E where
  frame := hI.frame
  advance := hI.advance
  malformed _ _ _ := hI.declarationFault _ rfl

theorem declaration (keyword previous : String) (ts : List Token) :
    Triple (I · ts) (Walk.declaration keyword previous ts) (fun r w => I w r.1) E := by
  have hT := hI.toTokenInvariant.toTrack
  rw [Walk.declaration]
  refine (hT.modify_frame ?_ ts).bind fun _ => ?_
  · exact fun _ => ⟨rfl, rfl, rfl, rfl, rfl, rfl⟩
  split
  · exact Triple.pure fun _ hw => hw
  split
  · exact (hT.typeName ts).bind fun ⟨_, _, _⟩ =>
      (hI.register _ _ _ _).bind fun _ => Triple.pure fun _ hw => hw
  split
  · apply (hT.peek ts ts).bind
    intro _
    split
    · exact Triple.pure fun _ hw => hw
    · exact (hT.typeName ts).bind fun ⟨_, _, _⟩ =>
        (hI.register _ _ _ _).bind fun _ => Triple.pure fun _ hw => hw
  split
  · exact (hT.skipNewlines ts).bind fun r => (hT.peek r.1 r.1).bind fun _ =>
      Triple.get.bind fun _ => (hI.register _ _ _ _).bind fun _ => Triple.pure fun _ hw => hw
  apply (hT.skipNewlines ts).bind
  rintro ⟨r, h⟩
  cases r with
  | nil => exact hT.malformed_bind
  | cons t r' =>
    apply (hI.advance t r').bind
    intro _
    split
    · exact Triple.pure fun _ hw => hw
    · exact (hT.skipGeneric r').bind fun ⟨_, r'', _⟩ => (hT.peek r'' r'').bind fun _ =>
        Triple.get.bind fun _ => (hI.register _ _ _ _).bind fun _ => Triple.pure fun _ hw => hw

theorem run {Q : Unit → Walk → Prop} (hFinish : Triple (I · []) finish Q E) (ts : List Token) :
    Triple (I · ts) (Walk.run ts) Q E :=
  hI.toTokenInvariant.toTrack.run_of_declaration hFinish
    (fun t ts previous _ => ((hI.advance t ts).bind fun _ => hI.declaration t.text previous ts).mono
      (fun _ hw => hw.1) fun _ _ hw => hw) ts

end ScanInvariant

/-- An invariant of the walk and the tokens it has left, which looks only at the text not
yet read, the lines completed and the text pending, and which consuming a token keeps
unless it fails with a fault that `E` admits; `E` admits the faults of declarations. -/
structure LineInvariant (I : Walk → List Token → Prop) (E : Fault → Prop) : Prop where
  frame : ∀ {w w' : Walk} {ts : List Token}, I w ts → w'.unread = w.unread →
    w'.lines = w.lines → w'.pending = w.pending → I w' ts
  advance : ∀ t ts, Triple (I · (t :: ts)) (advance t) (fun _ w => I w ts) E
  declarationFault : ∀ e, e.isDeclaration = true → E e

namespace LineInvariant

variable {I : Walk → List Token → Prop} {E : Fault → Prop} (hI : LineInvariant I E)
include hI

theorem register (name : String) (kind : DeclKind) (line : Nat) (ts : List Token) :
    Triple (I · ts) (Walk.register name kind line) (fun _ w => I w ts) E := by
  rw [Walk.register]
  split
  · exact Triple.pure fun _ hw => hw
  · intro w hw
    simp only [EStateM.run_bind, EStateM.run_get]
    cases hInsert : w.registry.insert ⟨.str name, kind, .str w.file, .int line⟩ with
    | ok r => exact hI.frame hw rfl rfl rfl
    | error e => exact hI.declarationFault e (insert_error_isDeclaration hInsert)

theorem toScanInvariant : ScanInvariant I E where
  frame hw hUnread hLines hPending _ _ := hI.frame hw hUnread hLines hPending
  advance := hI.advance
  register := hI.register
  declarationFault := hI.declarationFault

theorem run {Q : Unit → Walk → Prop} (hFinish : Triple (I · []) finish Q E) (ts : List Token) :
    Triple (I · ts) (Walk.run ts) Q E :=
  hI.toScanInvariant.run hFinish ts

end LineInvariant

end Walk

end Weave
