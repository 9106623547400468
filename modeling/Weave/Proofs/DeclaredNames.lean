import Weave.Proofs.DeclarationLines

/-! # The shape of each declared name

The walk adds a declaration only right after a `class`, `struct`, `enum`, `interface` or
`delegate` keyword token, and builds the name from the tokens that follow it. A class or a
struct is no declaration but a constraint when the last code token before its keyword
(neither a line feed nor a comment) ends with `:`. Otherwise its name is the part of the
first token after the line feeds before a `:`, `;` or `,`, followed by the text of the
generic block after that token (`GenericFront`). An enum, an interface or a delegate is
named by that part alone, of the first token after the line feeds, or for a delegate of
the token after its return type and that type's generic block. A name is added only when
it is not empty and reads as a word (`Registrable`), and for a class or a struct that is
checked of the whole name, generic block included: the part before the block may be empty,
or a bracket.
-/

namespace Weave

open Weave.Walk

set_option autoImplicit false

/-! ## The last code token -/

def Token.isCode (t : Token) : Bool :=
  !t.isNewline && !(TokenKind.ofText t.text).isComment

def lastCode (P : List Token) : String :=
  P.foldl (fun p t => if t.isCode then t.text else p) ""

theorem lastCode_append_singleton (P : List Token) (t : Token) :
    lastCode (P ++ [t]) = if t.isCode then t.text else lastCode P := by
  simp [lastCode, List.foldl_append]

theorem foldl_lastCode_of_not_code (p : String) {B : List Token}
    (hB : ∀ v ∈ B, v.isCode = false) :
    B.foldl (fun p t => if t.isCode then t.text else p) p = p := by
  induction B generalizing p with
  | nil => rfl
  | cons v B ih =>
    rw [List.foldl_cons, if_neg (by simp [hB v List.mem_cons_self])]
    exact ih p fun x hx => hB x (List.mem_cons_of_mem v hx)

theorem lastCode_eq_of_last {A B : List Token} {u : Token} (hu : u.isCode = true)
    (hB : ∀ v ∈ B, v.isCode = false) : lastCode (A ++ u :: B) = u.text := by
  rw [lastCode, List.foldl_append, List.foldl_cons, if_pos hu]
  exact foldl_lastCode_of_not_code u.text hB

/-- The last code token of `P`, if any, does not end with `:`: a `class` or `struct`
keyword after `P` is not a constraint. -/
def NoColonBefore (P : List Token) : Prop :=
  ∀ A u B, P = A ++ u :: B → u.isCode = true → (∀ v ∈ B, v.isCode = false) →
    u.text.endsWith ":" = false

theorem noColonBefore_of_lastCode {P : List Token} (h : (lastCode P).endsWith ":" = false) :
    NoColonBefore P := by
  rintro A u B rfl hu hB
  rwa [lastCode_eq_of_last hu hB] at h

/-! ## How a declaration stands in the tokens -/

def Registrable (name : String) : Prop :=
  name ≠ "" ∧ TokenKind.ofText name = .word

theorem registrable_of_guard {name : String}
    (h : (name.isEmpty || TokenKind.ofText name != .word) = false) : Registrable name := by
  simp only [Bool.or_eq_false_iff, bne_eq_false_iff_eq, String.isEmpty_eq_false_iff] at h
  exact h

/-- The tokens `T` declare `d`: its keyword `k` follows the tokens `P` in `T`, line feeds
`N` follow `k`, and the name is read from the tokens after them. -/
inductive Declares (T : List Token) : Declaration → Prop
  | classOrStruct {P N G Q : List Token} {k t : Token} {kind : DeclKind} {g : String}
      {f line : Value} (hT : T = P ++ k :: (N ++ t :: (G ++ Q)))
      (hKind : kind = .classDecl ∨ kind = .structDecl) (hk : k.text = kind.keyword)
      (hAfter : NoColonBefore P) (hN : ∀ n ∈ N, n.isNewline = true) (ht : t.isNewline = false)
      (hG : GenericFront G Q g) (hName : Registrable (Walk.baseName t.text ++ g)) :
      Declares T ⟨.str (Walk.baseName t.text ++ g), kind, f, line⟩
  | enumOrInterface {P N Q : List Token} {k t : Token} {kind : DeclKind} {f line : Value}
      (hT : T = P ++ k :: (N ++ t :: Q)) (hKind : kind = .enumDecl ∨ kind = .interfaceDecl)
      (hk : k.text = kind.keyword) (hN : ∀ n ∈ N, n.isNewline = true)
      (hName : Registrable (Walk.baseName t.text)) :
      Declares T ⟨.str (Walk.baseName t.text), kind, f, line⟩
  | delegate {P N G Q : List Token} {k r t : Token} {g : String} {f line : Value}
      (hT : T = P ++ k :: (N ++ r :: (G ++ t :: Q))) (hk : k.text = DeclKind.delegateDecl.keyword)
      (hN : ∀ n ∈ N, n.isNewline = true) (hr : r.isNewline = false)
      (hNamed : r.text ≠ "\x7b" ∧ r.text ≠ "(") (hG : GenericFront G (t :: Q) g)
      (hName : Registrable (Walk.baseName t.text)) :
      Declares T ⟨.str (Walk.baseName t.text), .delegateDecl, f, line⟩

namespace Walk

/-! ## The last token the walk consumed -/

section Previous

variable (p : String)

theorem previous_nextLine :
    Triple (·.previous = p) nextLine (fun _ w => w.previous = p) (fun _ => True) := by
  intro w hw
  rw [run_nextLine]
  by_cases hEmpty : w.unread = []
  · rw [if_pos hEmpty]
    trivial
  · rw [if_neg hEmpty]
    by_cases hSame : Text.visible (String.ofList (dropReturn (splitLine w.unread).1)) =
        Text.visible (String.join w.pending.toList)
    · rw [if_pos hSame]
      exact hw
    · rw [if_neg hSame]
      trivial

theorem previous_gatherPieces : ∀ ps : List (List Char),
    Triple (·.previous = p) (gatherPieces ps) (fun _ w => w.previous = p) (fun _ => True)
  | [] => Triple.pure fun _ hw => hw
  | q :: ps => by
    rw [gatherPieces, pushPending]
    refine Triple.bind ?_ fun _ => (previous_nextLine p).bind fun _ => previous_gatherPieces ps
    exact Triple.modify fun _ hw => hw

theorem previous_gatherText (x : List Char) :
    Triple (·.previous = p) (gatherText x) (fun _ w => w.previous = p) (fun _ => True) := by
  rw [gatherText, pushPending]
  exact (previous_gatherPieces p _).bind fun _ => Triple.modify fun _ hw => hw

theorem previous_advance (t : Token) :
    Triple (·.previous = p) (advance t)
      (fun _ w => w.previous = if t.isCode then t.text else p) (fun _ => True) := by
  cases hNewline : t.isNewline with
  | true =>
    have hCode : t.isCode = false := by simp [Token.isCode, hNewline]
    rw [advance_newline hNewline, hCode, if_neg Bool.false_ne_true]
    exact (previous_nextLine p).bind fun _ => Triple.modify fun _ hw => hw
  | false =>
    rw [advance_other hNewline]
    refine Triple.bind ?_ fun _ => previous_gatherText _ _
    split
    · rename_i hComment
      have hCode : t.isCode = false := by simp [Token.isCode, hComment]
      rw [hCode, if_neg Bool.false_ne_true]
      exact Triple.pure fun _ hw => hw
    · rename_i hComment
      have hCode : t.isCode = true := by simp [Token.isCode, hNewline, hComment]
      rw [hCode, if_pos rfl]
      exact Triple.modify fun _ _ => rfl

end Previous

/-! ## The walk reads each name in its shape -/

section Declaring

variable {T : List Token} {R : Registry}

/-- The walk of the tokens `T` from the registry `R`, with the tokens `ts` left: the last
code token it consumed is the last one before `ts`, and each declaration it added is one
that `T` declares. -/
structure Declaring (T : List Token) (R : Registry) (w : Walk) (ts : List Token) : Prop where
  consumed : ∃ P, T = P ++ ts ∧ w.previous = lastCode P
  added : ∃ ds, w.registry.entries = R.entries ++ ds ∧ ∀ d ∈ ds, Declares T d

theorem Declaring.advance (t : Token) (ts : List Token) :
    Triple (Declaring T R · (t :: ts)) (Walk.advance t) (fun _ w => Declaring T R w ts)
      (fun _ => True) := by
  rintro w ⟨⟨P, hT, hPrevious⟩, hAdded⟩
  have hKept := keeps_advance t w.registry w.file w ⟨rfl, rfl⟩
  have hLast := previous_advance w.previous t w rfl
  cases hRun : (Walk.advance t).run w with
  | ok _ w' =>
    rw [hRun] at hKept hLast
    refine ⟨⟨P ++ [t], by simp [hT], ?_⟩, by rw [hKept.1]; exact hAdded⟩
    rw [hLast, lastCode_append_singleton, hPrevious]
  | error _ _ => trivial

theorem Declaring.trackInvariant : TrackInvariant (Declaring T R) (fun _ => True) where
  frame := by
    rintro w w' ts ⟨⟨P, hT, hPrevious⟩, hAdded⟩ - - - hRegistry - hPrevious'
    exact ⟨⟨P, hT, hPrevious'.trans hPrevious⟩, by rw [hRegistry]; exact hAdded⟩
  advance := Declaring.advance
  malformed _ _ _ := trivial

theorem Declaring.register {ts : List Token} {name : String} {kind : DeclKind} {line : Nat}
    (hName : Registrable name → ∀ f l, Declares T ⟨.str name, kind, f, l⟩) :
    Triple (Declaring T R · ts) (Walk.register name kind line) (fun _ w => Declaring T R w ts)
      (fun _ => True) := by
  rw [Walk.register]
  split
  · exact Triple.pure fun _ hw => hw
  · rename_i hGuard
    intro w hw
    simp only [EStateM.run_bind, EStateM.run_get]
    cases hInsert : w.registry.insert ⟨.str name, kind, .str w.file, .int line⟩ with
    | ok r =>
      obtain ⟨hConsumed, ds, hEntries, hOwn⟩ := hw
      refine ⟨hConsumed, ds ++ [⟨.str name, kind, .str w.file, .int line⟩], ?_, ?_⟩
      · show r.entries = _
        rw [Registry.entries_of_insert _ hInsert, hEntries, List.append_assoc]
      · intro d hd
        rcases List.mem_append.1 hd with hd | hd
        · exact hOwn d hd
        · rw [List.mem_singleton] at hd
          exact hd ▸ hName (registrable_of_guard (Bool.eq_false_iff.2 hGuard)) _ _
    | error _ => trivial

theorem Declaring.typeName_bind {P ts : List Token} {k : Token} {kind : DeclKind}
    (hT : T = P ++ k :: ts) (hKind : kind = .classDecl ∨ kind = .structDecl)
    (hk : k.text = kind.keyword) (hAfter : NoColonBefore P)
    (f : String × Nat × Rest ts → WalkM (Rest ts))
    (hf : ∀ name line r, f (name, line, r) = (Walk.register name kind line >>= fun _ => pure r)) :
    Triple (Declaring T R · ts) (typeName ts >>= f) (fun r w => Declaring T R w r.1)
      (fun _ => True) := by
  refine (Declaring.trackInvariant.typeName_spec ts).bind fun res => ?_
  obtain ⟨name, line, r⟩ := res
  rw [hf]
  refine Triple.of_and fun hName => ?_
  obtain ⟨N, t, G, hts, hN, ht, ⟨g, hG, hName⟩, -⟩ := hName
  have hT' : T = P ++ k :: (N ++ t :: (G ++ r.1)) := hT.trans (congrArg (P ++ k :: ·) hts)
  refine (Declaring.register fun hRegistrable _ _ => ?_).bind fun _ => Triple.pure fun _ hw => hw
  subst hName
  exact .classOrStruct hT' hKind hk hAfter hN ht hG hRegistrable

theorem declaration_declares {P ts : List Token} {k : Token} (hT : T = P ++ k :: ts)
    (hKeyword : isDeclKeyword k.text = true) :
    Triple (Declaring T R · ts) (declaration k.text (lastCode P) ts)
      (fun r w => Declaring T R w r.1) (fun _ => True) := by
  have hI : TrackInvariant (Declaring T R) (fun _ => True) := Declaring.trackInvariant
  rw [Walk.declaration]
  refine (hI.modify_frame ?_ ts).bind fun _ => ?_
  · exact fun _ => ⟨rfl, rfl, rfl, rfl, rfl, rfl⟩
  split
  · exact Triple.pure fun _ hw => hw
  rename_i hConstraint
  split
  · rename_i hClass
    have hk : k.text = DeclKind.classDecl.keyword := by simpa [DeclKind.keyword] using hClass
    have hAfter : (lastCode P).endsWith ":" = false := by simpa [hClass] using hConstraint
    exact Declaring.typeName_bind hT (.inl rfl) hk (noColonBefore_of_lastCode hAfter) _
      fun _ _ _ => rfl
  split
  · rename_i hClass hStruct
    have hk : k.text = DeclKind.structDecl.keyword := by simpa [DeclKind.keyword] using hStruct
    have hAfter : (lastCode P).endsWith ":" = false := by simpa [hStruct] using hConstraint
    apply (hI.peek ts ts).bind
    intro _
    split
    · exact Triple.pure fun _ hw => hw
    · exact Declaring.typeName_bind hT (.inr rfl) hk (noColonBefore_of_lastCode hAfter) _
        fun _ _ _ => rfl
  split
  · rename_i hClass hStruct hOther
    refine (hI.skipNewlines_dropWhile ts).bind fun r => Triple.of_and fun hDrop => ?_
    apply (hI.peek_head r.1 r.1).bind
    intro t
    generalize hb : Walk.baseName t.text = b
    refine Triple.of_and fun hHead => ?_
    obtain ⟨Q, hr⟩ := List.head?_eq_some_iff.1 hHead
    obtain ⟨N, hts, hN, -⟩ := Token.split_dropWhile_isNewline (hDrop ▸ hr)
    have hT' : T = P ++ k :: (N ++ t :: Q) := by rw [hT, hts]
    have hk : k.text = (if k.text == "enum" then DeclKind.enumDecl else .interfaceDecl).keyword := by
      by_cases hEnum : k.text = "enum"
      · simp [hEnum, DeclKind.keyword]
      · have hInterface : k.text = "interface" := by simpa [hEnum] using hOther
        simp [hInterface, DeclKind.keyword]
    have hKind : (if k.text == "enum" then DeclKind.enumDecl else .interfaceDecl) = .enumDecl ∨
        (if k.text == "enum" then DeclKind.enumDecl else .interfaceDecl) = .interfaceDecl := by
      split <;> simp
    refine Triple.get.bind fun _ => ?_
    refine (Declaring.register fun hName _ _ => ?_).bind fun _ => Triple.pure fun _ hw => hw
    subst hb
    exact .enumOrInterface hT' hKind hk hN hName
  rename_i hClass hStruct hOther
  have hk := isDeclKeyword_delegate hKeyword hClass hStruct hOther
  apply (hI.skipNewlines_dropWhile ts).bind
  rintro ⟨r, h⟩
  refine Triple.of_and fun hDrop => ?_
  cases r with
  | nil => exact hI.malformed_bind
  | cons t r' =>
    obtain ⟨N, hts, hN, ht⟩ := Token.split_dropWhile_isNewline hDrop.symm
    apply (hI.advance t r').bind
    intro _
    split
    · exact Triple.pure fun _ hw => hw
    rename_i hNamed
    have hNamed' : t.text ≠ "\x7b" ∧ t.text ≠ "(" := by simpa using hNamed
    refine (hI.skipGeneric_front r').bind fun g => ?_
    obtain ⟨_, r'', _⟩ := g
    refine Triple.of_and fun hGeneric => ?_
    obtain ⟨G, hr', hG⟩ := hGeneric
    dsimp only at hr' hG
    apply (hI.peek_head r'' r'').bind
    intro u
    generalize hb : Walk.baseName u.text = b
    refine Triple.of_and fun hHead => ?_
    obtain ⟨Q, hr''⟩ := List.head?_eq_some_iff.1 hHead
    have hT' : T = P ++ k :: (N ++ t :: (G ++ u :: Q)) := by rw [hT, hts, hr', hr'']
    rw [hr''] at hG
    refine Triple.get.bind fun _ => ?_
    refine (Declaring.register fun hName _ _ => ?_).bind fun _ => Triple.pure fun _ hw => hw
    subst hb
    exact .delegate hT' hk hN ht hNamed' hG hName

theorem Declaring.finish :
    Triple (Declaring T R · []) Walk.finish
      (fun _ w => ∃ ds, w.registry.entries = R.entries ++ ds ∧ ∀ d ∈ ds, Declares T d)
      (fun _ => True) := by
  intro w hw
  have hKept := keeps_finish w.registry w.file w ⟨rfl, rfl⟩
  cases hRun : Walk.finish.run w with
  | ok _ w' =>
    rw [hRun] at hKept
    show ∃ ds, w'.registry.entries = R.entries ++ ds ∧ ∀ d ∈ ds, Declares T d
    rw [hKept.1]
    exact hw.added
  | error _ _ => trivial

theorem run_declares (ts : List Token) :
    Triple (Declaring T R · ts) (Walk.run ts)
      (fun _ w => ∃ ds, w.registry.entries = R.entries ++ ds ∧ ∀ d ∈ ds, Declares T d)
      (fun _ => True) := by
  refine Declaring.trackInvariant.run_of_declaration Declaring.finish
    (fun t ts previous hKeyword => ?_) ts
  have hBefore : ∀ w, (Declaring T R w (t :: ts) ∧ w.previous = previous) →
      ∃ P, T = P ++ t :: ts ∧ previous = lastCode P := by
    rintro w ⟨⟨⟨P, hT, hPrevious⟩, -⟩, hGiven⟩
    exact ⟨P, hT, hGiven.symm.trans hPrevious⟩
  refine Triple.of_pre hBefore fun hP => ?_
  obtain ⟨P, hT, rfl⟩ := hP
  exact ((Declaring.advance t ts).mono (fun _ hw => hw.1) fun _ _ hw => hw).bind fun _ =>
    declaration_declares hT hKeyword

end Declaring

end Walk

theorem Walk.declaring_start (T : List Token) (s : String) (R : Registry) (file : String) :
    Walk.Declaring T R (Walk.start s R file) T :=
  ⟨⟨[], rfl, rfl⟩, [], by simp [Walk.start], by simp⟩

/-- Registered names have the shape of their declaration. When the walk of a text succeeds,
every declaration it adds is declared by the text's tokens: right after a keyword token of
its kind, which for a class or a struct does not follow a code token ending in `:`; named
by the part before a `:`, `;` or `,` of the first token after the line feeds (for a
delegate, after its return type and that type's generic block), followed for a class or a
struct by the text of the generic block after that token; and the name is not empty and
is a word. -/
theorem classifyLines_declares {T : List Token} {s : String} {R : Registry} {file : String}
    {L : List SourceLine} (hL : (classifyLines T s R file).lines = .ok L) :
    ∃ ds, (classifyLines T s R file).registry.entries = R.entries ++ ds ∧
      ∀ d ∈ ds, Declares T d := by
  have hRun := Walk.run_declares T _ (Walk.declaring_start T s R file)
  unfold classifyLines at hL ⊢
  cases hWalk : (Walk.run T).run (Walk.start s R file) with
  | ok _ w =>
    rw [hWalk] at hRun
    exact hRun
  | error e w =>
    simp only [hWalk] at hL
    cases hL

def genericMapText : String := "public class Map<K,\n  List<V>> : IMap\n\x7b\n\x7d\nenum Color\n"

def genericMapTokens : List Token :=
  [⟨.word, "public"⟩, ⟨.word, "class"⟩, ⟨.word, "Map"⟩, ⟨.punctuation, "<"⟩, ⟨.word, "K,"⟩,
    Token.newline, ⟨.word, "List"⟩, ⟨.punctuation, "<"⟩, ⟨.word, "V"⟩, ⟨.punctuation, ">"⟩,
    ⟨.punctuation, ">"⟩, ⟨.word, ":"⟩, ⟨.word, "IMap"⟩, Token.newline, ⟨.punctuation, "\x7b"⟩,
    Token.newline, ⟨.punctuation, "\x7d"⟩, Token.newline, ⟨.word, "enum"⟩, ⟨.word, "Color"⟩,
    Token.newline]

theorem genericMap_declares :
    Token.lex genericMapText = .ok genericMapTokens ∧
      (classifyLines genericMapTokens genericMapText Registry.empty "Map.cs").lines =
        .ok [⟨.code, "public class Map<K,", 1⟩, ⟨.code, "  List<V>> : IMap", 2⟩,
          ⟨.code, "\x7b", 3⟩, ⟨.code, "\x7d", 4⟩, ⟨.code, "enum Color", 5⟩] ∧
      ∃ ds, (classifyLines genericMapTokens genericMapText Registry.empty "Map.cs").registry.entries =
          Registry.empty.entries ++ ds ∧ ∀ d ∈ ds, Declares genericMapTokens d := by
  have hLex : Token.lex genericMapText = .ok genericMapTokens := eq_ok_of_toOption (by decide +kernel)
  have hLines : (classifyLines genericMapTokens genericMapText Registry.empty "Map.cs").lines =
      .ok [⟨.code, "public class Map<K,", 1⟩, ⟨.code, "  List<V>> : IMap", 2⟩,
        ⟨.code, "\x7b", 3⟩, ⟨.code, "\x7d", 4⟩, ⟨.code, "enum Color", 5⟩] :=
    eq_ok_of_toOption (by decide +kernel)
  exact ⟨hLex, hLines, classifyLines_declares hLines⟩

/-- A class named by a comma followed by a generic block. -/
def commaClassTokens : List Token :=
  [⟨.word, "class"⟩, ⟨.word, ","⟩, ⟨.punctuation, "<"⟩, ⟨.word, "T"⟩, ⟨.punctuation, ">"⟩,
    Token.newline]

/-- The part of the comma before a `,` is empty, yet the walk adds the class: its name is
the generic block alone, and reads as a word. -/
theorem classifyLines_comma_class_name :
    Token.lex "class ,<T>\n" = .ok commaClassTokens ∧ Walk.baseName "," = "" ∧
      (classifyLines commaClassTokens "class ,<T>\n" Registry.empty "Sample.cs").registry.size = 1 ∧
      (classifyLines commaClassTokens "class ,<T>\n" Registry.empty "Sample.cs").registry.contains
        (.str "<T>") (.str "Sample.cs") = .ok true := by
  have hLex : Token.lex "class ,<T>\n" = .ok commaClassTokens := eq_ok_of_toOption (by decide +kernel)
  have hBase : Walk.baseName "," = "" := by decide +kernel
  have hSize : (classifyLines commaClassTokens "class ,<T>\n" Registry.empty "Sample.cs").registry.size =
      1 := by decide +kernel
  have hContains : (classifyLines commaClassTokens "class ,<T>\n" Registry.empty
      "Sample.cs").registry.contains (.str "<T>") (.str "Sample.cs") = .ok true :=
    eq_ok_of_toOption (by decide +kernel)
  exact ⟨hLex, hBase, hSize, hContains⟩

end Weave
