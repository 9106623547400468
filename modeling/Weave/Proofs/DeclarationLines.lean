import Weave.Proofs.LineKinds
import Weave.Proofs.RunOrder

/-! # The line of each declaration

A declaration is recorded at the line its name starts on, and the walk takes that line at
three moments: for a class or a struct once the line feeds before the name are consumed,
before the name and its generic block; for an enum or an interface when it looks at the
name without consuming it; for a delegate once its return type and the generic block after
that are consumed. Each time the lines completed are those of the tokens consumed
(`Walk.Reads`), so the line is one more than the line feeds of the tokens before the name,
and those tokens end with the keyword and what may stand between it and the name
(`ReadAt`). The text before a token shows the tokens before it (`Lexes.textBefore`), so
their line feeds are those of the text before the name.
-/

namespace Weave

open Weave.Text Weave.Token

set_option autoImplicit false

/-! ## The text before a token -/

/-- `pre` is the part of the text `cs` before the token of its decomposition `T` that
follows the tokens `P`: the text goes on with that token, and `pre` shows the characters
that are not blank and the line feeds of `P`. -/
def TextBefore (cs : List Char) (T P : List Token) (pre : List Char) : Prop :=
  ∃ t Q post, T = P ++ t :: Q ∧ cs = pre ++ t.text.toList ++ post ∧ shape pre = shape (tokenText P)

theorem count_lineFeed_shape (cs : List Char) : (shape cs).count '\n' = cs.count '\n' :=
  List.count_filter (by simp)

theorem TextBefore.count_lineFeed {cs : List Char} {T P : List Token} {pre : List Char}
    (h : TextBefore cs T P pre) : pre.count '\n' = lineFeeds P := by
  obtain ⟨_, _, _, _, _, hShape⟩ := h
  rw [← count_lineFeed_shape, hShape, count_lineFeed_shape]
  rfl

namespace Token

theorem textBefore_cons {cs x gap rest : List Char} {u : Token} {T : List Token}
    (hx : u.text.toList = x) (hcs : cs = x ++ gap ++ rest) (hGap : shape gap = [])
    (ih : ∀ P t Q, T = P ++ t :: Q → t.isNewline = false → ∃ pre, TextBefore rest T P pre) :
    ∀ P t Q, u :: T = P ++ t :: Q → t.isNewline = false →
      ∃ pre, TextBefore cs (u :: T) P pre := by
  intro P t Q hT ht
  cases P with
  | nil =>
    obtain ⟨rfl, rfl⟩ := List.cons.inj hT
    exact ⟨[], u, T, gap ++ rest, rfl, by simp [hcs, hx], rfl⟩
  | cons p P =>
    obtain ⟨rfl, hRest⟩ := List.cons.inj hT
    obtain ⟨pre, t', Q', post, hT', hText, hShape⟩ := ih P t Q hRest ht
    refine ⟨x ++ gap ++ pre, t', Q', post, by rw [hT']; rfl, by simp [hcs, hText], ?_⟩
    rw [shape_append, shape_append, hGap, hShape, tokenText_cons, shape_append, hx,
      List.append_nil]

theorem textBefore_self {cs x rest : List Char} {u : Token} {T : List Token}
    (hx : u.text.toList = x) (hcs : cs = x ++ rest)
    (ih : ∀ P t Q, T = P ++ t :: Q → t.isNewline = false → ∃ pre, TextBefore rest T P pre) :
    ∀ P t Q, u :: T = P ++ t :: Q → t.isNewline = false →
      ∃ pre, TextBefore cs (u :: T) P pre :=
  @textBefore_cons cs x [] rest u T hx (by rw [hcs, List.append_nil]) rfl ih

theorem textBefore_last {P Q : List Token} {t : Token} (hT : [newline] = P ++ t :: Q)
    (ht : t.isNewline = false) : ∃ pre, TextBefore [] [newline] P pre := by
  cases P with
  | nil =>
    obtain ⟨rfl, -⟩ := List.cons.inj hT
    cases ht
  | cons p P =>
    have hLength := congrArg List.length hT
    simp at hLength

theorem Lexes.textBefore {cs : List Char} {T : List Token} (h : Lexes cs T) :
    ∀ P t Q, T = P ++ t :: Q → t.isNewline = false → ∃ pre, TextBefore cs T P pre := by
  induction h with
  | nil =>
    intro P t Q hT
    simp at hT
  | lineFeed _ ih => exact textBefore_self rfl rfl ih
  | @blank c cs T hBlank hLineFeed _ ih =>
    intro P t Q hT ht
    obtain ⟨pre, t', Q', post, hT', hText, hShape⟩ := ih P t Q hT ht
    refine ⟨c :: pre, t', Q', post, hT', by rw [hText]; rfl, ?_⟩
    rw [shape_cons_of_blank hBlank hLineFeed, hShape]
  | string _ _ ih | verbatim _ _ ih | char _ _ ih | blockComment _ _ ih | word _ _ ih =>
    exact textBefore_self String.toList_ofList (by simp) ih
  | @bracket c _ _ _ _ ih => exact textBefore_self (x := [c]) (by simp) rfl ih
  | @lineComment body rest T _ _ ih =>
    have hRest := textBefore_self (u := newline) rfl rfl ih
    refine textBefore_cons rfl ?_ (shape_rtakeWhile_return ('/' :: '/' :: body)) hRest
    rw [commentText, String.toList_ofList, ← List.append_assoc,
      List.rdropWhile_append_rtakeWhile]
    simp [newline]
  | @lastLineComment body _ =>
    refine textBefore_cons rfl ?_ (shape_rtakeWhile_return ('/' :: '/' :: body))
      fun P t Q hT ht => textBefore_last hT ht
    rw [commentText, String.toList_ofList, List.rdropWhile_append_rtakeWhile, List.append_nil]

end Token

/-! ## Where a declaration's name stands -/

/-- What stands between a declaration's keyword and its name: line feed tokens, and for a
delegate, after them, its return type and the generic block that follows it. -/
def NameGap : DeclKind → List Token → Prop
  | .classDecl, M | .structDecl, M | .enumDecl, M | .interfaceDecl, M =>
    ∀ n ∈ M, n.isNewline = true
  | .delegateDecl, M => ∃ N r G, M = N ++ r :: G ∧ (∀ n ∈ N, n.isNewline = true) ∧
      r.isNewline = false ∧ (G = [] ∨ G.head?.map Token.text = some "<")

/-- The declaration `d` is read from the tokens `T` with its name in the token that follows
the tokens `P`: `P` ends with the keyword of `d`'s kind and what stands between it and the
name; the name begins with the part of that token before a `:`, `;` or `,`; and `d` is
recorded at the line the token starts on, one more than the line feeds of `P`. -/
structure ReadAt (T : List Token) (d : Declaration) (P : List Token) : Prop where
  name : ∃ t Q g, T = P ++ t :: Q ∧ t.isNewline = false ∧
    d.name = .str (Walk.baseName t.text ++ g)
  keyword : ∃ P₀ k M, P = P₀ ++ k :: M ∧ k.text = d.kind.keyword ∧ NameGap d.kind M
  line : d.line = .int ↑(lineFeeds P + 1)

/-- The declaration `d` is read from the text `s`, whose tokens are `T`, with its name in
the token after the tokens `P`, and is recorded at the line of `s` on which that token
starts: one more than the line feeds of the text before it. -/
structure NamedIn (s : String) (T : List Token) (d : Declaration) (P : List Token) : Prop where
  read : ReadAt T d P
  line : ∃ pre, TextBefore s.toList T P pre ∧ d.line = .int ↑(pre.count '\n' + 1)

theorem ReadAt.namedIn {s : String} {T : List Token} {d : Declaration} {P : List Token}
    (hLex : Lexes s.toList T) (h : ReadAt T d P) : NamedIn s T d P := by
  obtain ⟨t, Q, _, hT, ht, _⟩ := h.name
  obtain ⟨pre, hPre⟩ := hLex.textBefore P t Q hT ht
  exact ⟨h, pre, hPre, by rw [h.line, hPre.count_lineFeed]⟩

theorem ReadAt.of_parts {T P M Q : List Token} {k t : Token} {g f : String} {kind : DeclKind}
    {line : Nat} (hT : T = P ++ k :: (M ++ t :: Q)) (ht : t.isNewline = false)
    (hk : k.text = kind.keyword) (hGap : NameGap kind M)
    (hLine : line = lineFeeds (P ++ k :: M) + 1) :
    ReadAt T ⟨.str (Walk.baseName t.text ++ g), kind, .str f, .int line⟩ (P ++ k :: M) where
  name := ⟨t, Q, g, by simp [hT], ht, rfl⟩
  keyword := ⟨P, k, M, rfl, hk, hGap⟩
  line := by rw [hLine]

theorem genericGap {G r r' : List Token} (hr : G ++ r' = r)
    (h : r' = r ∨ r.head?.map Token.text = some "<") :
    G = [] ∨ G.head?.map Token.text = some "<" := by
  rcases h with h | h
  · left
    have hLength := congrArg List.length hr
    rw [List.length_append, h] at hLength
    exact List.eq_nil_of_length_eq_zero (by omega)
  · cases G with
    | nil => exact .inl rfl
    | cons g G =>
      right
      rw [← hr] at h
      simpa using h

theorem isDeclKeyword_delegate {s : String} (h : Walk.isDeclKeyword s = true)
    (hClass : ¬ (s == "class") = true) (hStruct : ¬ (s == "struct") = true)
    (hOther : ¬ (s == "enum" || s == "interface") = true) : s = DeclKind.delegateDecl.keyword := by
  simp only [Walk.isDeclKeyword, Bool.or_eq_true, beq_iff_eq] at h hClass hStruct hOther
  rcases h with (((h | h) | h) | h) | h <;> simp_all [DeclKind.keyword]

theorem Registry.insert_eq_error {r : Registry} {n f : String} {kind : DeclKind} {line : Value}
    {e : Fault} (h : r.insert ⟨.str n, kind, .str f, line⟩ = .error e) :
    ∃ old ∈ r.entries, old.name = .str n ∧ old.file = .str f ∧
      e = .duplicateType (.str n) (.str f) old.line line := by
  simp only [Registry.insert, keyFault?_str] at h
  split at h
  · rename_i hAny
    split at h
    · rename_i old hFind
      have hFound := List.find?_some hFind
      obtain ⟨hName, hFile⟩ := (Registry.clashes_str_iff old).1 hFound
      cases h
      exact ⟨old, List.mem_of_find?_eq_some hFind, hName, hFile, rfl⟩
    · rename_i hNone
      obtain ⟨old, hOld, hClash⟩ := List.any_eq_true.1 hAny
      exact absurd hClash (by simpa using List.find?_eq_none.1 hNone old hOld)
  · cases h

theorem Marks.consume_kinds_length (m : Marks) (t : Token) :
    (m.consume t).kinds.length = m.kinds.length + t.text.toList.count '\n' := by
  unfold Marks.consume
  split
  · rename_i hNewline
    simp [count_lineFeed_of_isNewline hNewline]
  · simp

namespace Walk

theorem marks_kinds_length (w : Walk) : w.marks.kinds.length = w.lines.size := by
  simp [marks]

/-! ## Faults of consuming tokens -/

theorem nextLine_plain :
    Triple (fun _ => True) nextLine (fun _ _ => True) (fun e => e.isDeclaration = false) := by
  intro w _
  rw [run_nextLine]
  by_cases hEmpty : w.unread = []
  · rw [if_pos hEmpty]
    rfl
  · rw [if_neg hEmpty]
    by_cases hSame : Text.visible (String.ofList (dropReturn (splitLine w.unread).1)) =
        Text.visible (String.join w.pending.toList)
    · rw [if_pos hSame]
      trivial
    · rw [if_neg hSame]
      rfl

theorem gatherPieces_plain : ∀ ps : List (List Char),
    Triple (fun _ => True) (gatherPieces ps) (fun _ _ => True) (fun e => e.isDeclaration = false)
  | [] => Triple.pure fun _ _ => trivial
  | p :: ps => by
    rw [gatherPieces, pushPending]
    exact (Triple.modify fun _ _ => trivial).bind fun _ =>
      nextLine_plain.bind fun _ => gatherPieces_plain ps

theorem gatherText_plain (x : List Char) :
    Triple (fun _ => True) (gatherText x) (fun _ _ => True) (fun e => e.isDeclaration = false) := by
  rw [gatherText, pushPending]
  exact (gatherPieces_plain _).bind fun _ => Triple.modify fun _ _ => trivial

theorem advance_plain (t : Token) :
    Triple (fun _ => True) (advance t) (fun _ _ => True) (fun e => e.isDeclaration = false) := by
  cases hNewline : t.isNewline with
  | true =>
    rw [advance_newline hNewline]
    exact nextLine_plain.bind fun _ => Triple.modify fun _ _ => trivial
  | false =>
    rw [advance_other hNewline]
    refine Triple.bind ?_ fun _ => gatherText_plain _
    split
    · exact Triple.pure fun _ _ => trivial
    · exact Triple.modify fun _ _ => trivial

/-! ## The walk reads each name at its line -/

section Reads

variable (T : List Token) (R : Registry) (file : String)

/-- The walk of the tokens `T` from the registry `R`, reading `file`, with the tokens `ts`
left: the lines completed are those of the tokens consumed, and each declaration added is
one of `file` read from `T` with its name after at most `n` tokens. -/
structure Reads (n : Nat) (w : Walk) (ts : List Token) : Prop where
  consumed : ∃ P, T = P ++ ts ∧ w.lines.size = lineFeeds P
  reading : w.file = file
  added : ∃ ds, w.registry.entries = R.entries ++ ds ∧
    ∀ d ∈ ds, d.file = .str file ∧ ∃ P, ReadAt T d P ∧ P.length ≤ n

/-- What a fault of that walk says of a name taken twice: the name is refused in `file` at
the line of a name read from `T`, and it was taken at the line given by a declaration of
`R`, or by one read from `T` at an earlier name. -/
def Reported : Fault → Prop
  | .duplicateType n f first l => f = .str file ∧ ∃ kind P, ReadAt T ⟨n, kind, f, l⟩ P ∧
      ((∃ d ∈ R.entries, d.name = n ∧ d.file = f ∧ d.line = first) ∨
        ∃ kind' P', ReadAt T ⟨n, kind', f, first⟩ P' ∧ P'.length < P.length)
  | _ => True

variable {T R file}

theorem reported_of_plain {e : Fault} (h : e.isDeclaration = false) : Reported T R file e := by
  cases e <;> simp_all [Fault.isDeclaration, Reported]

theorem Reads.mono {n n' : Nat} {w : Walk} {ts : List Token} (h : Reads T R file n w ts)
    (hn : n ≤ n') : Reads T R file n' w ts := by
  obtain ⟨hConsumed, hFile, ds, hEntries, hOwn⟩ := h
  refine ⟨hConsumed, hFile, ds, hEntries, fun d hd => ?_⟩
  obtain ⟨hdFile, P, hAt, hLength⟩ := hOwn d hd
  exact ⟨hdFile, P, hAt, hLength.trans hn⟩

theorem Reads.nextNumber {n : Nat} {w : Walk} {t : Token} {Q P : List Token}
    (h : Reads T R file n w (t :: Q)) (hT : T = P ++ t :: Q) : w.nextNumber = lineFeeds P + 1 := by
  obtain ⟨P', hT', hSize⟩ := h.consumed
  have hP : P' = P := List.append_cancel_right (hT'.symm.trans hT)
  rw [Walk.nextNumber, hSize, hP]

theorem Reads.advance {n : Nat} (t : Token) (ts : List Token) :
    Triple (Reads T R file n · (t :: ts)) (Walk.advance t) (fun _ w => Reads T R file n w ts)
      (Reported T R file) := by
  intro w hw
  have hMarks := marks_advance w.marks t w rfl
  have hKept := keeps_advance t w.registry w.file w ⟨rfl, rfl⟩
  have hPlain := advance_plain t w trivial
  cases hRun : (Walk.advance t).run w with
  | ok _ w' =>
    rw [hRun] at hMarks hKept
    obtain ⟨⟨P, hT, hSize⟩, hFile, hAdded⟩ := hw
    have hLines : w'.lines.size = w.lines.size + t.text.toList.count '\n' := by
      rw [← marks_kinds_length, hMarks, Marks.consume_kinds_length, marks_kinds_length]
    refine ⟨⟨P ++ [t], by simp [hT], ?_⟩, hKept.2.trans hFile, by rw [hKept.1]; exact hAdded⟩
    rw [hLines, hSize, lineFeeds_append, lineFeeds_cons, lineFeeds_nil, Nat.add_zero]
  | error e _ =>
    rw [hRun] at hPlain
    exact reported_of_plain hPlain

theorem Reads.tokenInvariant (n : Nat) : TokenInvariant (Reads T R file n) (Reported T R file) where
  frame := by
    rintro w w' ts ⟨⟨P, hT, hSize⟩, hFile, hAdded⟩ - hLines - hRegistry hFile'
    exact ⟨⟨P, hT, by rw [hLines]; exact hSize⟩, hFile'.trans hFile, by rw [hRegistry]; exact hAdded⟩
  advance := Reads.advance
  malformed _ _ _ := trivial

theorem word_of_added {name : String} (h : (name.isEmpty || TokenKind.ofText name != .word) = false) :
    TokenKind.ofText name = .word := by
  simp only [Bool.or_eq_false_iff, bne_eq_false_iff_eq] at h
  exact h.2

theorem isNewline_eq_false_of_word {u : Token} (h : TokenKind.ofText (baseName u.text) = .word) :
    u.isNewline = false := by
  cases hNewline : u.isNewline with
  | false => rfl
  | true =>
    simp only [Token.isNewline, beq_iff_eq] at hNewline
    rw [hNewline] at h
    exact absurd h (by decide)

theorem Reads.register {n : Nat} {ts P : List Token} {name : String} {kind : DeclKind}
    {line : Nat}
    (hAt : (name.isEmpty || TokenKind.ofText name != .word) = false →
      ReadAt T ⟨.str name, kind, .str file, .int line⟩ P) (hn : n < P.length) :
    Triple (Reads T R file n · ts) (Walk.register name kind line)
      (fun _ w => Reads T R file P.length w ts) (Reported T R file) := by
  rw [Walk.register]
  split
  · exact Triple.pure fun _ hw => hw.mono hn.le
  · rename_i hWord
    replace hAt := hAt (Bool.eq_false_iff.2 hWord)
    intro w hw
    obtain ⟨hConsumed, hFile, ds, hEntries, hOwn⟩ := hw
    simp only [EStateM.run_bind, EStateM.run_get]
    rw [hFile]
    cases hInsert : w.registry.insert ⟨.str name, kind, .str file, .int line⟩ with
    | ok r =>
      refine ⟨hConsumed, rfl, ds ++ [⟨.str name, kind, .str file, .int line⟩], ?_, ?_⟩
      · show r.entries = _
        rw [Registry.entries_of_insert _ hInsert, hEntries, List.append_assoc]
      · intro d hd
        rcases List.mem_append.1 hd with hd | hd
        · obtain ⟨hdFile, P', hAt', hLength⟩ := hOwn d hd
          exact ⟨hdFile, P', hAt', by omega⟩
        · rw [List.mem_singleton] at hd
          subst hd
          exact ⟨rfl, P, hAt, Nat.le_refl _⟩
    | error e =>
      obtain ⟨old, hOld, hName, hOldFile, rfl⟩ := Registry.insert_eq_error hInsert
      refine ⟨rfl, kind, P, hAt, ?_⟩
      rw [hEntries] at hOld
      rcases List.mem_append.1 hOld with hOld | hOld
      · exact .inl ⟨old, hOld, hName, hOldFile, rfl⟩
      · obtain ⟨-, P', hAt', hLength⟩ := hOwn old hOld
        obtain ⟨oldName, oldKind, oldFile, oldLine⟩ := old
        simp only at hName hOldFile
        subst hName hOldFile
        exact .inr ⟨oldKind, P', hAt', by omega⟩

end Reads

section Declarations

variable {T : List Token} {R : Registry} {file : String}

theorem Reads.register_return {n : Nat} {ts Pn : List Token} {name : String} {kind : DeclKind}
    {line : Nat} {r : Rest ts}
    (hAt : (name.isEmpty || TokenKind.ofText name != .word) = false →
      ReadAt T ⟨.str name, kind, .str file, .int line⟩ Pn)
    (hn : n < Pn.length) (hr : Pn.length + r.1.length ≤ T.length) :
    Triple (Reads T R file n · r.1) (Walk.register name kind line >>= fun _ => pure r)
      (fun r w => Reads T R file (T.length - r.1.length) w r.1) (Reported T R file) :=
  (Reads.register hAt hn).bind fun _ => Triple.pure fun _ hw => hw.mono (by omega)

theorem Reads.typeName_bind {P ts : List Token} {k : Token} {kind : DeclKind}
    (hT : T = P ++ k :: ts) (hk : k.text = kind.keyword)
    (hGap : ∀ N, (∀ m ∈ N, m.isNewline = true) → NameGap kind N)
    (f : String × Nat × Rest ts → WalkM (Rest ts))
    (hf : ∀ name line r, f (name, line, r) = (Walk.register name kind line >>= fun _ => pure r)) :
    Triple (Reads T R file P.length · ts) (typeName ts >>= f)
      (fun r w => Reads T R file (T.length - r.1.length) w r.1) (Reported T R file) := by
  refine ((Reads.tokenInvariant P.length).toTrack.typeName_spec ts).bind fun res => ?_
  obtain ⟨name, line, r⟩ := res
  rw [hf]
  refine Triple.of_and fun hName => ?_
  obtain ⟨N, t, G, hts, hN, ht, ⟨g, -, hName⟩, w', hw', rfl⟩ := hName
  have hT' : T = P ++ k :: (N ++ t :: (G ++ r.1)) := hT.trans (congrArg (P ++ k :: ·) hts)
  have hLine : w'.nextNumber = lineFeeds (P ++ k :: N) + 1 := hw'.nextNumber (by simp [hT'])
  have hLength : T.length = P.length + N.length + G.length + r.1.length + 2 := by
    rw [hT']
    simp only [List.length_append, List.length_cons]
    omega
  have hAt : ReadAt T ⟨.str name, kind, .str file, .int w'.nextNumber⟩ (P ++ k :: N) := by
    rw [show name = baseName t.text ++ g from hName]
    exact ReadAt.of_parts hT' ht hk (hGap N hN) hLine
  refine Reads.register_return (fun _ => hAt) (by simp) ?_
  simp only [List.length_append, List.length_cons]
  omega

theorem declaration_reads {P ts : List Token} {k : Token} (hT : T = P ++ k :: ts)
    (hKeyword : isDeclKeyword k.text = true) (previous : String) :
    Triple (Reads T R file P.length · ts) (declaration k.text previous ts)
      (fun r w => Reads T R file (T.length - r.1.length) w r.1) (Reported T R file) := by
  have hI : TrackInvariant (Reads T R file P.length) (Reported T R file) :=
    (Reads.tokenInvariant P.length).toTrack
  have hLength : T.length = P.length + ts.length + 1 := by
    rw [hT]
    simp only [List.length_append, List.length_cons]
    omega
  rw [Walk.declaration]
  refine (hI.modify_frame ?_ ts).bind fun _ => ?_
  · exact fun _ => ⟨rfl, rfl, rfl, rfl, rfl, rfl⟩
  split
  · exact Triple.pure fun _ hw => hw.mono (by dsimp only; omega)
  split
  · rename_i hClass
    have hk : k.text = DeclKind.classDecl.keyword := by simpa [DeclKind.keyword] using hClass
    exact Reads.typeName_bind hT hk (fun _ hN => hN) _ fun _ _ _ => rfl
  split
  · rename_i hClass hStruct
    apply (hI.peek ts ts).bind
    intro _
    split
    · exact Triple.pure fun _ hw => hw.mono (by dsimp only; omega)
    · have hk : k.text = DeclKind.structDecl.keyword := by simpa [DeclKind.keyword] using hStruct
      exact Reads.typeName_bind hT hk (fun _ hN => hN) _ fun _ _ _ => rfl
  split
  · rename_i hClass hStruct hOther
    refine (hI.skipNewlines_dropWhile ts).bind fun r => Triple.of_and fun hDrop => ?_
    apply (hI.peek_head r.1 r.1).bind
    intro t
    generalize hb : baseName t.text = b
    refine Triple.of_and fun hHead => ?_
    obtain ⟨Q, hr⟩ := List.head?_eq_some_iff.1 hHead
    obtain ⟨N, hts, hN, ht⟩ := Token.split_dropWhile_isNewline (hDrop ▸ hr)
    have hT' : T = P ++ k :: (N ++ t :: Q) := by rw [hT, hts]
    refine Triple.get_self.bind fun a => ?_
    have hNext : ∀ w, (a = w ∧ Reads T R file P.length w r.1) →
        a.nextNumber = lineFeeds (P ++ k :: N) + 1 :=
      fun w hw => (hw.1 ▸ hr ▸ hw.2).nextNumber (by simp [hT'])
    refine Triple.of_pre hNext fun hLine => ?_
    have hk : k.text = (if k.text == "enum" then DeclKind.enumDecl else .interfaceDecl).keyword := by
      by_cases hEnum : k.text = "enum" <;> simp_all [DeclKind.keyword]
    have hGap : NameGap (if k.text == "enum" then DeclKind.enumDecl else .interfaceDecl) N := by
      split <;> exact hN
    have hAt := ReadAt.of_parts (g := "") (f := file) hT' ht hk hGap hLine
    rw [String.append_empty, hb] at hAt
    refine (Reads.register_return (fun _ => hAt) (by simp) ?_).mono (fun _ hw => hw.2)
      fun _ _ hw => hw
    rw [hr, hT']
    simp only [List.length_append, List.length_cons]
    omega
  rename_i hClass hStruct hOther
  have hk := isDeclKeyword_delegate hKeyword hClass hStruct hOther
  apply (hI.skipNewlines_dropWhile ts).bind
  rintro ⟨r, h⟩
  refine Triple.of_and fun hDrop => ?_
  cases r with
  | nil => exact hI.malformed_bind
  | cons t r' =>
    obtain ⟨N, hts, hN, ht⟩ := Token.split_dropWhile_isNewline hDrop.symm
    apply (hI.advance t r').bind
    intro _
    split
    · refine Triple.pure fun _ hw => hw.mono ?_
      rw [hts] at hLength
      simp only [List.length_append, List.length_cons] at hLength ⊢
      omega
    refine (hI.skipGeneric_rest r').bind fun g => ?_
    obtain ⟨_, r'', hShorter⟩ := g
    refine Triple.of_and fun hGeneric => ?_
    have hReturn : r' <:+ T := ⟨P ++ k :: (N ++ [t]), by rw [hT, hts]; simp⟩
    have hBlock : ∀ w, Reads T R file P.length w r'' → ∃ G, G ++ r'' = r' := by
      intro w hw
      obtain ⟨Pb, hTb, -⟩ := hw.consumed
      exact List.suffix_of_suffix_length_le ⟨Pb, hTb.symm⟩ hReturn hShorter
    refine Triple.of_pre hBlock fun hG => ?_
    obtain ⟨G, hr'⟩ := hG
    apply (hI.peek_head r'' r'').bind
    intro u
    generalize hb : baseName u.text = b
    refine Triple.of_and fun hHead => ?_
    obtain ⟨Q, hr''⟩ := List.head?_eq_some_iff.1 hHead
    have hT' : T = P ++ k :: ((N ++ t :: G) ++ u :: Q) := by
      rw [hT, hts, ← hr', hr'']
      simp
    refine Triple.get_self.bind fun a => ?_
    have hNext : ∀ w, (a = w ∧ Reads T R file P.length w r'') →
        a.nextNumber = lineFeeds (P ++ k :: (N ++ t :: G)) + 1 :=
      fun w hw => (hw.1 ▸ hr'' ▸ hw.2).nextNumber (by simp [hT'])
    refine Triple.of_pre hNext fun hLine => ?_
    have hGap : NameGap .delegateDecl (N ++ t :: G) :=
      ⟨N, t, G, rfl, hN, ht, genericGap hr' hGeneric⟩
    have hAt : (b.isEmpty || TokenKind.ofText b != .word) = false →
        ReadAt T ⟨.str b, .delegateDecl, .str file, .int a.nextNumber⟩
          (P ++ k :: (N ++ t :: G)) := by
      intro hWord
      subst hb
      have hAt := ReadAt.of_parts (g := "") (f := file) hT'
        (isNewline_eq_false_of_word (word_of_added hWord)) hk hGap hLine
      rwa [String.append_empty] at hAt
    refine (Reads.register_return (r := ⟨r'', _⟩) hAt (by simp) ?_).mono (fun _ hw => hw.2)
      fun _ _ hw => hw
    show (P ++ k :: (N ++ t :: G)).length + r''.length ≤ T.length
    rw [hr'', hT']
    simp only [List.length_append, List.length_cons]
    omega

end Declarations

/-! ## The whole walk -/

section Run

variable {T : List Token} {R : Registry} {file : String}

theorem Reads.runInvariant :
    TokenInvariant (fun w ts => Reads T R file (T.length - ts.length) w ts) (Reported T R file) where
  frame := by
    intro w w' ts hw
    exact (Reads.tokenInvariant (T.length - ts.length)).frame hw
  advance t ts :=
    (Reads.advance t ts).mono (fun _ hw => hw) fun _ _ hw => hw.mono (by simp only [List.length_cons]; omega)
  malformed _ _ _ := trivial

theorem Reads.finish {n : Nat} :
    Triple (Reads T R file n · []) Walk.finish
      (fun _ w => ∃ ds, w.registry.entries = R.entries ++ ds ∧
        ∀ d ∈ ds, d.file = .str file ∧ ∃ P, ReadAt T d P) (Reported T R file) := by
  intro w hw
  obtain ⟨-, -, ds, hEntries, hOwn⟩ := hw
  have hAdded : ∃ ds, w.registry.entries = R.entries ++ ds ∧
      ∀ d ∈ ds, d.file = .str file ∧ ∃ P, ReadAt T d P := by
    refine ⟨ds, hEntries, fun d hd => ?_⟩
    obtain ⟨hFile, P, hAt, -⟩ := hOwn d hd
    exact ⟨hFile, P, hAt⟩
  rw [run_finish]
  by_cases hDone : w.unread = [] ∧ w.pending = #[]
  · rw [if_pos hDone]
    exact hAdded
  · rw [if_neg hDone]
    by_cases hSame : Text.visible (String.ofList (dropReturn (splitLine w.unread).1)) =
        Text.visible (String.join w.pending.toList)
    · rw [if_pos hSame]
      by_cases hRest : (splitLine w.unread).2 = []
      · rw [if_pos hRest]
        exact hAdded
      · rw [if_neg hRest]
        trivial
    · rw [if_neg hSame]
      trivial

theorem run_namesAtLines (ts : List Token) :
    Triple (fun w => Reads T R file (T.length - ts.length) w ts) (Walk.run ts)
      (fun _ w => ∃ ds, w.registry.entries = R.entries ++ ds ∧
        ∀ d ∈ ds, d.file = .str file ∧ ∃ P, ReadAt T d P) (Reported T R file) := by
  refine Reads.runInvariant.toTrack.run_of_declaration Reads.finish
    (fun t ts previous hKeyword => Triple.mono ?_ (fun _ hw => hw.1) fun _ _ hw => hw) ts
  show Triple (fun w => Reads T R file (T.length - (t :: ts).length) w (t :: ts)) _ _ _
  have hPrefix : ∀ w, Reads T R file (T.length - (t :: ts).length) w (t :: ts) →
      ∃ P, T = P ++ t :: ts := by
    intro w hw
    obtain ⟨P, hT, -⟩ := hw.consumed
    exact ⟨P, hT⟩
  refine Triple.of_pre hPrefix fun hP => ?_
  obtain ⟨P, hT⟩ := hP
  have hn : T.length - (t :: ts).length = P.length := by
    rw [hT]
    simp
  rw [hn]
  exact (Reads.advance t ts).bind fun _ => declaration_reads hT hKeyword previous

end Run

end Walk

theorem Walk.reads_start (T : List Token) (s : String) (R : Registry) (file : String) :
    Walk.Reads T R file (T.length - T.length) (Walk.start s R file) T :=
  ⟨⟨[], rfl, rfl⟩, rfl, [], by simp [Walk.start], by simp⟩

theorem classifyLines_added {T : List Token} {s : String} {R : Registry} {file : String}
    {L : List SourceLine} (hL : (classifyLines T s R file).lines = .ok L) :
    ∃ ds, (classifyLines T s R file).registry.entries = R.entries ++ ds ∧
      ∀ d ∈ ds, d.file = .str file ∧ ∃ P, ReadAt T d P := by
  have hRun := Walk.run_namesAtLines T _ (Walk.reads_start T s R file)
  unfold classifyLines at hL ⊢
  cases hWalk : (Walk.run T).run (Walk.start s R file) with
  | ok _ w =>
    rw [hWalk] at hRun
    exact hRun
  | error e w =>
    simp only [hWalk] at hL
    cases hL

theorem classifyLines_reported {T : List Token} {s : String} {R : Registry} {file : String}
    {e : Fault} (hL : (classifyLines T s R file).lines = .error e) : Walk.Reported T R file e := by
  have hRun := Walk.run_namesAtLines T _ (Walk.reads_start T s R file)
  unfold classifyLines at hL
  cases hWalk : (Walk.run T).run (Walk.start s R file) with
  | ok _ w =>
    simp only [hWalk] at hL
    cases hL
  | error e' w =>
    simp only [hWalk, Except.error.injEq] at hL
    rw [hWalk] at hRun
    exact hL ▸ hRun

/-- Declarations are recorded at the line where their name starts. When the walk of a text
succeeds, every declaration it adds belongs to the file and is read at a name token after
its keyword, recorded at one more than the line feeds of the text before that token. When
the walk stops at a name taken twice and the registry it started from holds no declaration
under that name and file, both declarations are read from the text: the fault gives the
line of the second name and that of the first, which comes earlier. -/
theorem classifyLines_declaration_lines {s : String} {T : List Token} (hLex : lex s = .ok T)
    (R : Registry) (file : String) :
    ((∃ L, (classifyLines T s R file).lines = .ok L) →
      ∃ ds, (classifyLines T s R file).registry.entries = R.entries ++ ds ∧
        ∀ d ∈ ds, d.file = .str file ∧ ∃ P, NamedIn s T d P) ∧
    (∀ n f first l, (classifyLines T s R file).lines = .error (.duplicateType n f first l) →
      (∀ d ∈ R.entries, ¬ (d.name = n ∧ d.file = f)) →
      f = .str file ∧ ∃ k₁ k₂ P₁ P₂, NamedIn s T ⟨n, k₁, f, first⟩ P₁ ∧
        NamedIn s T ⟨n, k₂, f, l⟩ P₂ ∧ P₁.length < P₂.length) := by
  have hLexes := lexes_of_lex hLex
  constructor
  · rintro ⟨L, hL⟩
    obtain ⟨ds, hEntries, hOwn⟩ := classifyLines_added hL
    refine ⟨ds, hEntries, fun d hd => ?_⟩
    obtain ⟨hFile, P, hAt⟩ := hOwn d hd
    exact ⟨hFile, P, hAt.namedIn hLexes⟩
  · intro n f first l hL hFresh
    obtain ⟨hf, kind, P, hAt, hFirst⟩ := classifyLines_reported hL
    refine ⟨hf, ?_⟩
    rcases hFirst with ⟨d, hd, hName, hdFile, -⟩ | ⟨kind', P', hAt', hEarlier⟩
    · exact absurd ⟨hName, hdFile⟩ (hFresh d hd)
    · exact ⟨kind', kind, P', P, hAt'.namedIn hLexes, hAt.namedIn hLexes, hEarlier⟩

/-! ## Two texts -/

/-- The name, file and lines of a fault of a name taken twice in a source, read off a
result. -/
def duplicateOf? {α : Type} : Except Fault α → Option (String × String × Int × Int)
  | .error (.duplicateType (.str n) (.str f) (.int first) (.int l)) => some (n, f, first, l)
  | _ => none

theorem eq_error_of_duplicateOf? {α : Type} {x : Except Fault α} {n f : String} {first l : Int}
    (h : duplicateOf? x = some (n, f, first, l)) :
    x = .error (.duplicateType (.str n) (.str f) (.int first) (.int l)) := by
  unfold duplicateOf? at h
  split at h
  · cases h
    rfl
  · cases h

def lateClassText : String := "public class\n\nLate\n\x7b\n\x7d\n"

def lateClassTokens : List Token :=
  [⟨.word, "public"⟩, ⟨.word, "class"⟩, newline, newline, ⟨.word, "Late"⟩, newline,
    ⟨.punctuation, "\x7b"⟩, newline, ⟨.punctuation, "\x7d"⟩, newline]

def repeatedClassText : String := "class A\nclass\nA\n"

def repeatedClassTokens : List Token :=
  [⟨.word, "class"⟩, ⟨.word, "A"⟩, newline, ⟨.word, "class"⟩, newline, ⟨.word, "A"⟩, newline]

/-- A registry that already holds a class `B` of the file. -/
def classBRegistry : Registry :=
  ⟨[⟨.str "B", .classDecl, .str "Sample.cs", .int 9⟩], List.pairwise_singleton _ _⟩

theorem lateAndRepeatedClass_declaration_lines :
    (lex lateClassText = .ok lateClassTokens ∧
      ∃ ds, (classifyLines lateClassTokens lateClassText Registry.empty "Sample.cs").registry.entries =
        Registry.empty.entries ++ ds ∧
        ∀ d ∈ ds, d.file = .str "Sample.cs" ∧ ∃ P, NamedIn lateClassText lateClassTokens d P) ∧
    (lex repeatedClassText = .ok repeatedClassTokens ∧
      (classifyLines repeatedClassTokens repeatedClassText classBRegistry "Sample.cs").lines =
        .error (.duplicateType (.str "A") (.str "Sample.cs") (.int 1) (.int 3)) ∧
      ∃ k₁ k₂ P₁ P₂,
        NamedIn repeatedClassText repeatedClassTokens ⟨.str "A", k₁, .str "Sample.cs", .int 1⟩ P₁ ∧
        NamedIn repeatedClassText repeatedClassTokens ⟨.str "A", k₂, .str "Sample.cs", .int 3⟩ P₂ ∧
        P₁.length < P₂.length) := by
  have hLate : lex lateClassText = .ok lateClassTokens := eq_ok_of_toOption (by decide +kernel)
  have hLateLines : (classifyLines lateClassTokens lateClassText Registry.empty "Sample.cs").lines =
      .ok [⟨.code, "public class", 1⟩, ⟨.code, "", 2⟩, ⟨.code, "Late", 3⟩, ⟨.code, "\x7b", 4⟩,
        ⟨.code, "\x7d", 5⟩] :=
    eq_ok_of_toOption (by decide +kernel)
  have hRepeated : lex repeatedClassText = .ok repeatedClassTokens :=
    eq_ok_of_toOption (by decide +kernel)
  have hFault : (classifyLines repeatedClassTokens repeatedClassText classBRegistry "Sample.cs").lines =
      .error (.duplicateType (.str "A") (.str "Sample.cs") (.int 1) (.int 3)) :=
    eq_error_of_duplicateOf? (by decide +kernel)
  have hFresh : ∀ d ∈ classBRegistry.entries, ¬ (d.name = .str "A" ∧ d.file = .str "Sample.cs") := by
    intro d hd
    rw [classBRegistry, List.mem_singleton] at hd
    subst hd
    simp
  exact ⟨⟨hLate, (classifyLines_declaration_lines hLate Registry.empty "Sample.cs").1 ⟨_, hLateLines⟩⟩,
    hRepeated, hFault,
    ((classifyLines_declaration_lines hRepeated classBRegistry "Sample.cs").2 _ _ _ _ hFault hFresh).2⟩

end Weave
