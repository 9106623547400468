import Weave.Proofs.Layout
import Weave.Proofs.WalkInvariant

/-! # The kind of each line

A line is a comment line when tokens start on it and all are comments. A line on which no
token starts keeps the kind of the line before it. A line that begins inside a token of
several lines is a comment line when the token's first line is one and every token that
starts on it is a comment. `FollowsReference` states this rule over the tokens of a text;
a token starts on line `k` when `k - 1` line feeds come before it.
-/

namespace Weave

open Weave.Text Weave.Token

set_option autoImplicit false

/-! ## Lines of tokens -/

def lineFeeds (T : List Token) : Nat :=
  (tokenText T).count '\n'

@[simp] theorem lineFeeds_nil : lineFeeds [] = 0 := rfl

@[simp] theorem lineFeeds_cons (t : Token) (T : List Token) :
    lineFeeds (t :: T) = t.text.toList.count '\n' + lineFeeds T := by
  simp [lineFeeds]

@[simp] theorem lineFeeds_append (A B : List Token) :
    lineFeeds (A ++ B) = lineFeeds A + lineFeeds B := by
  simp [lineFeeds, tokenText]

theorem count_lineFeed_of_isNewline {t : Token} (h : t.isNewline = true) :
    t.text.toList.count '\n' = 1 := by
  simp only [Token.isNewline, beq_iff_eq] at h
  simp [h]

def StartsOn (T : List Token) (t : Token) (k : Nat) : Prop :=
  ∃ P R, T = P ++ t :: R ∧ t.isNewline = false ∧ lineFeeds P + 1 = k

def EndsWithNewline (T : List Token) (k : Nat) : Prop :=
  ∃ P t R, T = P ++ t :: R ∧ t.isNewline = true ∧ lineFeeds P + 1 = k

def OpensFresh (T : List Token) (k : Nat) : Prop :=
  k = 1 ∨ EndsWithNewline T (k - 1)

/-- Line `k` of the tokens `T` begins inside a token of several lines that starts on line `j`. -/
def BeginsInside (T : List Token) (k j : Nat) : Prop :=
  ∃ P t R, T = P ++ t :: R ∧ t.isNewline = false ∧ lineFeeds P + 1 = j ∧ j < k ∧
    k ≤ lineFeeds (P ++ [t]) + 1

def Token.IsComment (t : Token) : Prop :=
  (TokenKind.ofText t.text).isComment = true

def CommentsOn (T : List Token) (k : Nat) : Prop :=
  ∀ t, StartsOn T t k → t.IsComment

/-- Line `k`, whose kind is `K[k - 1]`, follows the rule over the tokens `T`. When it opens
fresh and tokens start on it, it is a comment line exactly when all of them are comments;
when it opens fresh and none does, it has the kind of the line before, or is code as the
first line; when it begins inside a token started on line `j`, it is a comment line
exactly when line `j` is one and every token that starts on it is a comment. -/
structure LineFollows (T : List Token) (K : List LineKind) (k : Nat) : Prop where
  started : OpensFresh T k → (∃ t, StartsOn T t k) → (K[k - 1]? = some .comment ↔ CommentsOn T k)
  blank : OpensFresh T k → (¬ ∃ t, StartsOn T t k) →
    K[k - 1]? = some (if k = 1 then .code else K[k - 2]?.getD .code)
  inside : ∀ j, BeginsInside T k j →
    (K[k - 1]? = some .comment ↔ K[j - 1]? = some .comment ∧ CommentsOn T k)

def FollowsReference (T : List Token) (K : List LineKind) : Prop :=
  ∀ k, 1 ≤ k → k ≤ K.length → LineFollows T K k

/-- A class whose name stands on the line after its keyword: the declaration's scan reads
the name without classifying it, so the line comment after it opens the line, and the
line is a comment line although a word starts on it. -/
theorem classifyLines_declared_name_line :
    lex "class\nFoo // c\n" = .ok [⟨.word, "class"⟩, Token.newline, ⟨.word, "Foo"⟩,
      ⟨.lineComment, "// c"⟩, Token.newline] ∧
    (classifyLines [⟨.word, "class"⟩, Token.newline, ⟨.word, "Foo"⟩, ⟨.lineComment, "// c"⟩,
      Token.newline] "class\nFoo // c\n" Registry.empty "Sample.cs").lines =
        .ok [⟨.code, "class", 1⟩, ⟨.comment, "Foo // c", 2⟩] ∧
    StartsOn [⟨.word, "class"⟩, Token.newline, ⟨.word, "Foo"⟩, ⟨.lineComment, "// c"⟩,
      Token.newline] ⟨.word, "Foo"⟩ 2 ∧
    ¬ FollowsReference [⟨.word, "class"⟩, Token.newline, ⟨.word, "Foo"⟩, ⟨.lineComment, "// c"⟩,
      Token.newline] [.code, .comment] := by
  have hFoo : StartsOn [⟨.word, "class"⟩, Token.newline, ⟨.word, "Foo"⟩, ⟨.lineComment, "// c"⟩,
      Token.newline] ⟨.word, "Foo"⟩ 2 :=
    ⟨[⟨.word, "class"⟩, Token.newline], [⟨.lineComment, "// c"⟩, Token.newline], rfl,
      by decide, by decide⟩
  have hWalk : (classifyLines [⟨.word, "class"⟩, Token.newline, ⟨.word, "Foo"⟩,
      ⟨.lineComment, "// c"⟩, Token.newline] "class\nFoo // c\n" Registry.empty "Sample.cs").lines.toOption =
        some [⟨.code, "class", 1⟩, ⟨.comment, "Foo // c", 2⟩] := by
    decide +kernel
  refine ⟨eq_ok_of_toOption (by decide +kernel), eq_ok_of_toOption hWalk, hFoo, fun h => ?_⟩
  have hFresh : OpensFresh [⟨.word, "class"⟩, Token.newline, ⟨.word, "Foo"⟩,
      ⟨.lineComment, "// c"⟩, Token.newline] 2 :=
    .inr ⟨[⟨.word, "class"⟩], Token.newline, [⟨.word, "Foo"⟩, ⟨.lineComment, "// c"⟩, Token.newline],
      rfl, by decide, by decide⟩
  have hComments := ((h 2 (by decide) (by decide)).started hFresh ⟨_, hFoo⟩).1 rfl
  have hWord : ¬ Token.IsComment ⟨.word, "Foo"⟩ := by
    unfold Token.IsComment
    decide
  exact absurd (hComments _ hFoo) hWord

/-! ## Lines of a longer list of tokens -/

section Positions

variable {P : List Token} {t u : Token} {k j : Nat}

theorem append_singleton_eq_append_cons {A B : List Token} (h : P ++ [t] = A ++ u :: B) :
    (A = P ∧ u = t ∧ B = []) ∨ ∃ B', P = A ++ u :: B' ∧ B = B' ++ [t] := by
  rcases List.eq_nil_or_concat B with rfl | ⟨B', b, rfl⟩
  · obtain ⟨hA, hu⟩ := List.append_inj' h rfl
    exact .inl ⟨hA.symm, (List.singleton_inj.1 hu).symm, rfl⟩
  · have h' : P ++ [t] = (A ++ u :: B') ++ [b] := by simpa using h
    obtain ⟨hP, hb⟩ := List.append_inj' h' rfl
    exact .inr ⟨B', hP, by simp [List.singleton_inj.1 hb]⟩

theorem exists_append_singleton (Q : List Token → Token → Prop) :
    (∃ A u B, P ++ [t] = A ++ u :: B ∧ Q A u) ↔ (∃ A u B, P = A ++ u :: B ∧ Q A u) ∨ Q P t := by
  constructor
  · rintro ⟨A, u, B, hEq, hQ⟩
    rcases append_singleton_eq_append_cons hEq with ⟨rfl, rfl, -⟩ | ⟨B', rfl, -⟩
    · exact .inr hQ
    · exact .inl ⟨A, u, B', rfl, hQ⟩
  · rintro (⟨A, u, B, rfl, hQ⟩ | hQ)
    · exact ⟨A, u, B ++ [t], by simp, hQ⟩
    · exact ⟨P, t, [], rfl, hQ⟩

theorem startsOn_append_singleton :
    StartsOn (P ++ [t]) u k ↔ StartsOn P u k ∨ (t = u ∧ u.isNewline = false ∧ lineFeeds P + 1 = k) := by
  have hFound : ∀ T, StartsOn T u k ↔
      ∃ A v B, T = A ++ v :: B ∧ (v = u ∧ u.isNewline = false ∧ lineFeeds A + 1 = k) := by
    intro T
    constructor
    · rintro ⟨A, B, hEq, hu, hk⟩
      exact ⟨A, u, B, hEq, rfl, hu, hk⟩
    · rintro ⟨A, v, B, hEq, rfl, hu, hk⟩
      exact ⟨A, B, hEq, hu, hk⟩
  rw [hFound, hFound, exists_append_singleton]

theorem endsWithNewline_append_singleton :
    EndsWithNewline (P ++ [t]) k ↔ EndsWithNewline P k ∨ (t.isNewline = true ∧ lineFeeds P + 1 = k) :=
  exists_append_singleton fun A u => u.isNewline = true ∧ lineFeeds A + 1 = k

theorem beginsInside_append_singleton :
    BeginsInside (P ++ [t]) k j ↔ BeginsInside P k j ∨
      (t.isNewline = false ∧ lineFeeds P + 1 = j ∧ j < k ∧ k ≤ lineFeeds (P ++ [t]) + 1) :=
  exists_append_singleton fun A u =>
    u.isNewline = false ∧ lineFeeds A + 1 = j ∧ j < k ∧ k ≤ lineFeeds (A ++ [u]) + 1

theorem StartsOn.le (h : StartsOn P u k) : k ≤ lineFeeds P + 1 := by
  obtain ⟨A, B, rfl, -, rfl⟩ := h
  simp only [lineFeeds_append, lineFeeds_cons]
  omega

theorem EndsWithNewline.le (h : EndsWithNewline P k) : k ≤ lineFeeds P := by
  obtain ⟨A, u, B, rfl, hu, rfl⟩ := h
  simp only [lineFeeds_append, lineFeeds_cons, count_lineFeed_of_isNewline hu]
  omega

theorem BeginsInside.le (h : BeginsInside P k j) : k ≤ lineFeeds P + 1 := by
  obtain ⟨A, u, B, rfl, -, -, -, hk⟩ := h
  simp only [lineFeeds_append, lineFeeds_cons, lineFeeds_nil] at hk ⊢
  omega

theorem BeginsInside.bounds (h : BeginsInside P k j) : 1 ≤ j ∧ j < k := by
  obtain ⟨A, u, B, -, -, rfl, hjk, -⟩ := h
  omega

theorem startsOn_append_singleton_of_le (hk : k ≤ lineFeeds P) :
    StartsOn (P ++ [t]) u k ↔ StartsOn P u k := by
  have hNot : ¬ (t = u ∧ u.isNewline = false ∧ lineFeeds P + 1 = k) := fun h => by omega
  rw [startsOn_append_singleton, or_iff_left hNot]

theorem startsOn_append_newline (ht : t.isNewline = true) :
    StartsOn (P ++ [t]) u k ↔ StartsOn P u k := by
  have hNot : ¬ (t = u ∧ u.isNewline = false ∧ lineFeeds P + 1 = k) := fun h => by simp_all
  rw [startsOn_append_singleton, or_iff_left hNot]

theorem startsOn_append_open :
    StartsOn (P ++ [t]) u (lineFeeds P + 1) ↔ StartsOn P u (lineFeeds P + 1) ∨ (t = u ∧ u.isNewline = false) := by
  simp [startsOn_append_singleton]

theorem not_startsOn_append_of_lt (hk : lineFeeds P + 1 < k) : ¬ StartsOn (P ++ [t]) u k := by
  rw [startsOn_append_singleton]
  rintro (h | ⟨-, -, rfl⟩)
  · exact absurd h.le (by omega)
  · omega

theorem opensFresh_append_singleton (hk : k ≤ lineFeeds P + 1) :
    OpensFresh (P ++ [t]) k ↔ OpensFresh P k := by
  have hNot : ¬ (t.isNewline = true ∧ lineFeeds P + 1 = k - 1) := fun h => by omega
  simp only [OpensFresh, endsWithNewline_append_singleton, or_iff_left hNot]

theorem opensFresh_append_of_lt (hk : lineFeeds P + 1 < k) :
    OpensFresh (P ++ [t]) k ↔ t.isNewline = true ∧ k = lineFeeds P + 2 := by
  simp only [OpensFresh, endsWithNewline_append_singleton]
  constructor
  · rintro (rfl | h | ⟨ht, hk'⟩)
    · omega
    · exact absurd h.le (by omega)
    · exact ⟨ht, by omega⟩
  · rintro ⟨ht, rfl⟩
    exact .inr (.inr ⟨ht, rfl⟩)

theorem beginsInside_append_singleton_of_le (hk : k ≤ lineFeeds P + 1) :
    BeginsInside (P ++ [t]) k j ↔ BeginsInside P k j := by
  have hNot : ¬ (t.isNewline = false ∧ lineFeeds P + 1 = j ∧ j < k ∧
      k ≤ lineFeeds (P ++ [t]) + 1) := fun h => by omega
  rw [beginsInside_append_singleton, or_iff_left hNot]

theorem beginsInside_append_of_lt (hk : lineFeeds P + 1 < k) :
    BeginsInside (P ++ [t]) k j ↔
      t.isNewline = false ∧ j = lineFeeds P + 1 ∧ k ≤ lineFeeds (P ++ [t]) + 1 := by
  rw [beginsInside_append_singleton]
  constructor
  · rintro (h | ⟨ht, rfl, -, hk'⟩)
    · exact absurd h.le (by omega)
    · exact ⟨ht, rfl, hk'⟩
  · rintro ⟨ht, rfl, hk'⟩
    exact .inr ⟨ht, rfl, hk, hk'⟩

end Positions

/-! ## Following the rule line by line -/

section Follows

variable {T P : List Token} {K X : List LineKind} {t : Token} {k : Nat}

theorem LineFollows.append_kinds (h : LineFollows T K k) (hk : 1 ≤ k) (hK : k ≤ K.length) :
    LineFollows T (K ++ X) k := by
  have hLine : (K ++ X)[k - 1]? = K[k - 1]? := List.getElem?_append_left (by omega)
  refine ⟨fun hF hS => ?_, fun hF hS => ?_, fun j hI => ?_⟩
  · rw [hLine]
    exact h.started hF hS
  · have hBefore : (K ++ X)[k - 2]? = K[k - 2]? := List.getElem?_append_left (by omega)
    rw [hLine, hBefore]
    exact h.blank hF hS
  · have hStart : (K ++ X)[j - 1]? = K[j - 1]? :=
      List.getElem?_append_left (by have := hI.bounds; omega)
    rw [hLine, hStart]
    exact h.inside j hI

theorem LineFollows.append_token (h : LineFollows P K k) (hk : k ≤ lineFeeds P + 1)
    (hStarts : ∀ u, StartsOn (P ++ [t]) u k ↔ StartsOn P u k) : LineFollows (P ++ [t]) K k := by
  have hComments : CommentsOn (P ++ [t]) k ↔ CommentsOn P k :=
    forall_congr' fun u => imp_congr_left (hStarts u)
  have hStarted : (∃ u, StartsOn (P ++ [t]) u k) ↔ ∃ u, StartsOn P u k := exists_congr hStarts
  refine ⟨fun hF hS => ?_, fun hF hS => ?_, fun j hI => ?_⟩
  · rw [hComments]
    exact h.started ((opensFresh_append_singleton hk).1 hF) (hStarted.1 hS)
  · exact h.blank ((opensFresh_append_singleton hk).1 hF) (hStarted.not.1 hS)
  · rw [hComments]
    exact h.inside j ((beginsInside_append_singleton_of_le hk).1 hI)

theorem FollowsReference.append_token (h : FollowsReference P K) (hK : K.length ≤ lineFeeds P + 1)
    (hStarts : ∀ u k, k ≤ K.length → (StartsOn (P ++ [t]) u k ↔ StartsOn P u k)) :
    FollowsReference (P ++ [t]) K :=
  fun k hk hK' => (h k hk hK').append_token (by omega) fun u => hStarts u k hK'

theorem FollowsReference.append (h : FollowsReference T K)
    (hNew : ∀ k, K.length < k → k ≤ K.length + X.length → LineFollows T (K ++ X) k) :
    FollowsReference T (K ++ X) := by
  intro k hk hK
  rw [List.length_append] at hK
  by_cases hOld : k ≤ K.length
  · exact (h k hk hOld).append_kinds hk hOld
  · exact hNew k (by omega) hK

end Follows

/-! ## The kinds the walk keeps -/

/-- What the walk keeps of the kinds of lines: the kinds of the lines completed, whether the
current line is a comment line, and whether only comments have started on it. -/
structure Marks where
  kinds : List LineKind
  inComment : Bool
  atLineStart : Bool

namespace Marks

def kind (m : Marks) : LineKind :=
  if m.inComment then .comment else .code

def complete (m : Marks) (n : Nat) : Marks :=
  { m with kinds := m.kinds ++ List.replicate n m.kind }

def classify (m : Marks) (comment : Bool) : Marks :=
  { m with inComment := m.atLineStart && comment, atLineStart := m.atLineStart && comment }

/-- Consumes a token: a line feed token completes the line and opens the next; another
token completes a line for each line feed it holds. -/
def consume (m : Marks) (t : Token) : Marks :=
  if t.isNewline then { m.complete 1 with atLineStart := true }
  else m.complete (t.text.toList.count '\n')

/-- One token of the walk's main loop: a token other than a line feed is classified before
it is consumed. -/
def step (m : Marks) (t : Token) : Marks :=
  if t.isNewline then m.consume t
  else (m.classify (TokenKind.ofText t.text).isComment).consume t

def start : Marks :=
  ⟨[], false, true⟩

@[simp] theorem complete_kinds (m : Marks) (n : Nat) :
    (m.complete n).kinds = m.kinds ++ List.replicate n m.kind := rfl

@[simp] theorem complete_atLineStart (m : Marks) (n : Nat) :
    (m.complete n).atLineStart = m.atLineStart := rfl

@[simp] theorem complete_zero (m : Marks) : m.complete 0 = m := by
  simp [complete]

theorem complete_complete (m : Marks) (a b : Nat) : (m.complete a).complete b = m.complete (a + b) := by
  simp only [complete, kind, List.append_assoc, List.replicate_add]
  rfl

@[simp] theorem classify_kinds (m : Marks) (c : Bool) : (m.classify c).kinds = m.kinds := rfl

theorem kind_eq_comment (m : Marks) : m.kind = .comment ↔ m.inComment = true := by
  cases h : m.inComment <;> simp [kind, h]

end Marks

namespace Walk

def marks (w : Walk) : Marks :=
  ⟨w.lines.toList.map SourceLine.kind, w.inComment, w.atLineStart⟩

theorem marks_completeLine (w : Walk) : w.completeLine.marks = w.marks.complete 1 := by
  cases hComment : w.inComment <;> simp [marks, Marks.complete, Marks.kind, completeLine, hComment]

theorem marks_nextLine (m : Marks) :
    Triple (·.marks = m) nextLine (fun _ w => w.marks = m.complete 1) (fun _ => True) := by
  intro w hw
  rw [run_nextLine]
  by_cases hEmpty : w.unread = []
  · rw [if_pos hEmpty]
    trivial
  · rw [if_neg hEmpty]
    by_cases hSame : visible (String.ofList (dropReturn (splitLine w.unread).1)) =
        visible (String.join w.pending.toList)
    · rw [if_pos hSame]
      show w.completeLine.marks = _
      rw [marks_completeLine, hw]
    · rw [if_neg hSame]
      trivial

theorem marks_gatherText (m : Marks) (x : List Char) :
    Triple (·.marks = m) (gatherText x) (fun _ w => w.marks = m.complete (x.count '\n'))
      (fun _ => True) := by
  rcases lineFeed_cases x with hNone | ⟨pre, post, hPre, hx⟩
  · rw [gatherText_of_not_mem hNone, List.count_eq_zero_of_not_mem hNone, Marks.complete_zero]
    exact Triple.modify fun _ hw => hw
  · have hCount : x.count '\n' = 1 + post.count '\n' := by
      rw [hx, List.count_append, List.count_eq_zero_of_not_mem hPre, List.count_cons_self]
      omega
    rw [hCount, ← Marks.complete_complete]
    rw [hx, gatherText_append hPre, pushPending]
    exact Triple.bind (Triple.modify fun _ hw => hw) fun _ =>
      (marks_nextLine m).bind fun _ => marks_gatherText (m.complete 1) post
termination_by x.length
decreasing_by simp only [hx, List.length_append, List.length_cons]; omega

theorem marks_advance (m : Marks) (t : Token) :
    Triple (·.marks = m) (advance t) (fun _ w => w.marks = m.consume t) (fun _ => True) := by
  cases hNewline : t.isNewline with
  | true =>
    have hConsume : m.consume t = { m.complete 1 with atLineStart := true } := by
      rw [Marks.consume, if_pos hNewline]
    rw [advance_newline hNewline, hConsume]
    refine (marks_nextLine m).bind fun _ => Triple.modify fun w hw => ?_
    rw [← hw]
    rfl
  | false =>
    have hConsume : m.consume t = m.complete (t.text.toList.count '\n') := by
      rw [Marks.consume, if_neg (by simp [hNewline])]
    rw [advance_other hNewline, hConsume]
    refine Triple.bind ?_ fun _ => marks_gatherText m _
    split
    · exact Triple.pure fun _ hw => hw
    · exact Triple.modify fun _ hw => hw

theorem marks_classifyToken (m : Marks) (t : Token) :
    Triple (·.marks = m) (classifyToken t)
      (fun c w => w.marks = m.classify (TokenKind.ofText t.text).isComment ∧
        c = (m.atLineStart && (TokenKind.ofText t.text).isComment)) (fun _ => True) := by
  rintro w rfl
  simp only [classifyToken, EStateM.run_bind, EStateM.run_get]
  by_cases hStart : (w.atLineStart && (TokenKind.ofText t.text).isComment) = true
  · rw [if_pos hStart]
    show { w with inComment := true }.marks = _ ∧ true = _
    simp only [marks, Marks.classify, hStart]
    simp_all
  · rw [if_neg hStart]
    show { w with inComment := false, atLineStart := false }.marks = _ ∧ false = _
    simp only [marks, Marks.classify]
    simp_all

theorem marks_finish (m : Marks) :
    Triple (·.marks = m) finish (fun _ w => w.marks = m ∨ w.marks = m.complete 1) (fun _ => True) := by
  intro w hw
  rw [run_finish]
  by_cases hDone : w.unread = [] ∧ w.pending = #[]
  · rw [if_pos hDone]
    exact .inl hw
  · rw [if_neg hDone]
    by_cases hSame : visible (String.ofList (dropReturn (splitLine w.unread).1)) =
        visible (String.join w.pending.toList)
    · rw [if_pos hSame]
      by_cases hRest : (splitLine w.unread).2 = []
      · rw [if_pos hRest]
        exact .inr (by rw [marks_completeLine, hw])
      · rw [if_neg hRest]
        trivial
    · rw [if_neg hSame]
      trivial

end Walk

/-! ## The kinds follow the rule -/

section Inside

variable {P : List Token} {t : Token} {K : List LineKind} {k : Nat}

theorem getElem?_append_replicate {κ : LineKind} {n i : Nat} (hi : K.length ≤ i)
    (hi' : i < K.length + n) : (K ++ List.replicate n κ)[i]? = some κ := by
  rw [List.getElem?_append_right hi, List.getElem?_replicate_of_lt (by omega)]

theorem not_startsOn_nil {u : Token} : ¬ StartsOn [] u k := by
  rintro ⟨A, B, hEq, -⟩
  simp at hEq

theorem not_beginsInside_nil {j : Nat} : ¬ BeginsInside [] k j := by
  rintro ⟨A, u, B, hEq, -⟩
  simp at hEq

theorem lineFollows_inside (ht : t.isNewline = false) (hk : lineFeeds P + 1 < k)
    (hKind : K[k - 1]? = K[lineFeeds P]?) :
    LineFollows (P ++ [t]) K k := by
  have hNotFresh : ¬ OpensFresh (P ++ [t]) k := fun hF => by
    simp [(opensFresh_append_of_lt hk).1 hF |>.1] at ht
  refine ⟨fun hF => absurd hF hNotFresh, fun hF => absurd hF hNotFresh, fun j hI => ?_⟩
  obtain ⟨-, rfl, -⟩ := (beginsInside_append_of_lt hk).1 hI
  have hComments : CommentsOn (P ++ [t]) k := fun u hu => absurd hu (not_startsOn_append_of_lt hk)
  rw [hKind, Nat.add_sub_cancel, and_iff_left hComments]

end Inside

namespace Marks

/-- What the flags of `m` say about line `c` of the tokens `Q`, whose earlier lines have the
kinds `m.kinds`. On a line that opens fresh, only comments have started exactly when all
its tokens are comments, and with none it has the kind of the line before. On a line that
begins inside a token, only comments have started exactly when the token's first line is
a comment line and all its tokens are comments. Once a token starts on the line or it
begins inside one, it is a comment line exactly when only comments have started. -/
structure OnLine (m : Marks) (Q : List Token) (c : Nat) : Prop where
  fresh : OpensFresh Q c → (m.atLineStart = true ↔ CommentsOn Q c)
  fresh_blank : OpensFresh Q c → (¬ ∃ u, StartsOn Q u c) →
    m.kind = if c = 1 then .code else m.kinds[c - 2]?.getD .code
  inside : ∀ j, BeginsInside Q c j →
    (m.atLineStart = true ↔ m.kinds[j - 1]? = some .comment ∧ CommentsOn Q c)
  flags : ((∃ u, StartsOn Q u c) ∨ ∃ j, BeginsInside Q c j) → m.inComment = m.atLineStart

section OnLine

variable {m : Marks} {P Q : List Token} {t : Token} {c : Nat}

theorem OnLine.lineFollows (h : m.OnLine Q c) (hLen : m.kinds.length + 1 = c) :
    LineFollows Q (m.kinds ++ [m.kind]) c := by
  have hLine : (m.kinds ++ [m.kind])[c - 1]? = some m.kind := by
    rw [List.getElem?_append_right (by omega), show c - 1 - m.kinds.length = 0 by omega]
    rfl
  have hEarlier : ∀ i, i < c - 1 → (m.kinds ++ [m.kind])[i]? = m.kinds[i]? :=
    fun i hi => List.getElem?_append_left (by omega)
  refine ⟨fun hF hS => ?_, fun hF hS => ?_, fun j hI => ?_⟩
  · rw [hLine, Option.some_inj, kind_eq_comment, h.flags (.inl hS)]
    exact h.fresh hF
  · by_cases hFirst : c = 1
    · rw [hLine, h.fresh_blank hF hS]
      simp [hFirst]
    · rw [if_neg hFirst, hEarlier (c - 2) (by omega), hLine, h.fresh_blank hF hS, if_neg hFirst]
  · have hBounds := hI.bounds
    rw [hLine, Option.some_inj, kind_eq_comment, h.flags (.inr ⟨j, hI⟩), hEarlier (j - 1) (by omega)]
    exact h.inside j hI

theorem OnLine.close (h : m.OnLine Q c) (hRef : FollowsReference Q m.kinds)
    (hLen : m.kinds.length + 1 = c) : FollowsReference Q (m.kinds ++ [m.kind]) :=
  hRef.append fun k hk hk' => by
    have hLine : k = c := by simp at hk'; omega
    exact hLine ▸ h.lineFollows hLen

theorem OnLine.classify (h : m.OnLine P (lineFeeds P + 1)) (ht : t.isNewline = false) :
    (m.classify (TokenKind.ofText t.text).isComment).OnLine (P ++ [t]) (lineFeeds P + 1) := by
  have hFresh : OpensFresh (P ++ [t]) (lineFeeds P + 1) ↔ OpensFresh P (lineFeeds P + 1) :=
    opensFresh_append_singleton le_rfl
  have hInside : ∀ j, BeginsInside (P ++ [t]) (lineFeeds P + 1) j ↔ BeginsInside P (lineFeeds P + 1) j :=
    fun j => beginsInside_append_singleton_of_le le_rfl
  have hComments : CommentsOn (P ++ [t]) (lineFeeds P + 1) ↔
      CommentsOn P (lineFeeds P + 1) ∧ t.IsComment := by
    simp only [CommentsOn, startsOn_append_open, or_imp, forall_and, and_imp, forall_eq', ht,
      forall_const]
  have hStarted : ∃ u, StartsOn (P ++ [t]) u (lineFeeds P + 1) :=
    ⟨t, startsOn_append_open.2 (.inr ⟨rfl, ht⟩)⟩
  refine ⟨fun hF => ?_, fun _ hS => absurd hStarted hS, fun j hI => ?_, fun _ => rfl⟩
  · rw [hComments, ← h.fresh (hFresh.1 hF)]
    simp [Marks.classify, Token.IsComment]
  · rw [hComments, classify_kinds, ← and_assoc, ← h.inside j ((hInside j).1 hI)]
    simp [Marks.classify, Token.IsComment]

theorem OnLine.newline (hLen : m.kinds.length = lineFeeds P) (ht : t.isNewline = true) :
    ({ m.complete 1 with atLineStart := true } : Marks).OnLine (P ++ [t]) (lineFeeds P + 2) := by
  have hAfter : lineFeeds P + 1 < lineFeeds P + 2 := by omega
  have hNone : ¬ ∃ u, StartsOn (P ++ [t]) u (lineFeeds P + 2) :=
    fun ⟨_, hu⟩ => not_startsOn_append_of_lt hAfter hu
  have hOutside : ∀ j, ¬ BeginsInside (P ++ [t]) (lineFeeds P + 2) j := fun j hI => by
    simp [((beginsInside_append_of_lt hAfter).1 hI).1] at ht
  refine ⟨fun _ => iff_of_true rfl fun u hu => absurd ⟨u, hu⟩ hNone, fun _ _ => ?_,
    fun j hI => absurd hI (hOutside j), ?_⟩
  · have hLast : (m.kinds ++ List.replicate 1 m.kind)[lineFeeds P]? = some m.kind :=
      getElem?_append_replicate (by omega) (by omega)
    simp only [complete_kinds, show lineFeeds P + 2 - 2 = lineFeeds P by omega, hLast]
    rfl
  · rintro (hS | ⟨j, hI⟩)
    · exact absurd hS hNone
    · exact absurd hI (hOutside j)

theorem OnLine.enter {n : Nat} (hFlags : m.inComment = m.atLineStart)
    (hLen : m.kinds.length = lineFeeds P) (ht : t.isNewline = false) :
    (m.complete (n + 1)).OnLine (P ++ [t]) (lineFeeds P + (n + 1) + 1) := by
  have hAfter : lineFeeds P + 1 < lineFeeds P + (n + 1) + 1 := by omega
  have hNone : ¬ ∃ u, StartsOn (P ++ [t]) u (lineFeeds P + (n + 1) + 1) :=
    fun ⟨_, hu⟩ => not_startsOn_append_of_lt hAfter hu
  have hNotFresh : ¬ OpensFresh (P ++ [t]) (lineFeeds P + (n + 1) + 1) := fun hF => by
    simp [((opensFresh_append_of_lt hAfter).1 hF).1] at ht
  have hFirst : (m.complete (n + 1)).kinds[lineFeeds P]? = some m.kind := by
    rw [complete_kinds, getElem?_append_replicate (by omega) (by omega)]
  refine ⟨fun hF => absurd hF hNotFresh, fun hF => absurd hF hNotFresh, fun j hI => ?_,
    fun _ => hFlags⟩
  obtain ⟨-, rfl, -⟩ := (beginsInside_append_of_lt hAfter).1 hI
  have hComments : CommentsOn (P ++ [t]) (lineFeeds P + (n + 1) + 1) :=
    fun u hu => absurd ⟨u, hu⟩ hNone
  rw [Nat.add_sub_cancel, hFirst, Option.some_inj, kind_eq_comment, hFlags, complete_atLineStart,
    and_iff_left hComments]

end OnLine

/-- The kinds `m` after the tokens `P`: one for each line they complete, each keeping to the
rule, and flags that say what the rule makes of the line they leave open. -/
structure Agrees (m : Marks) (P : List Token) : Prop where
  length : m.kinds.length = lineFeeds P
  reference : FollowsReference P m.kinds
  onLine : m.OnLine P (lineFeeds P + 1)

theorem agrees_start : start.Agrees [] where
  length := rfl
  reference := fun _ hk hk' => absurd hk' (by simp [start]; omega)
  onLine :=
    { fresh := fun _ => iff_of_true rfl fun _ hu => absurd hu not_startsOn_nil
      fresh_blank := fun _ _ => rfl
      inside := fun _ hI => absurd hI not_beginsInside_nil
      flags := by
        rintro (⟨_, hu⟩ | ⟨_, hI⟩)
        · exact absurd hu not_startsOn_nil
        · exact absurd hI not_beginsInside_nil }

theorem Agrees.step {m : Marks} {P : List Token} {t : Token} (h : m.Agrees P) :
    (m.step t).Agrees (P ++ [t]) := by
  cases ht : t.isNewline with
  | true =>
    have hLines : lineFeeds (P ++ [t]) = lineFeeds P + 1 := by
      simp [count_lineFeed_of_isNewline ht]
    have hStep : m.step t = { m.complete 1 with atLineStart := true } := by
      simp [Marks.step, Marks.consume, ht]
    rw [hStep]
    refine ⟨by simp [h.length, hLines], ?_, by rw [hLines]; exact OnLine.newline h.length ht⟩
    have hClosed := h.onLine.close h.reference (by rw [h.length])
    simpa using hClosed.append_token (by simp [h.length]) fun _ _ _ => startsOn_append_newline ht
  | false =>
    have hStep : m.step t =
        (m.classify (TokenKind.ofText t.text).isComment).complete (t.text.toList.count '\n') := by
      simp [Marks.step, Marks.consume, ht]
    have hOpen := h.onLine.classify ht
    have hBefore : FollowsReference (P ++ [t]) m.kinds :=
      h.reference.append_token (by rw [h.length]; omega) fun _ _ hk =>
        startsOn_append_singleton_of_le (h.length ▸ hk)
    rw [hStep]
    cases hCount : t.text.toList.count '\n' with
    | zero =>
      have hLines : lineFeeds (P ++ [t]) = lineFeeds P := by simp [hCount]
      rw [complete_zero]
      exact ⟨by simp [h.length, hLines], hBefore, by rw [hLines]; exact hOpen⟩
    | succ n =>
      have hLines : lineFeeds (P ++ [t]) = lineFeeds P + (n + 1) := by simp [hCount]
      refine ⟨by simp [h.length, hLines], ?_,
        by rw [hLines]; exact OnLine.enter rfl h.length ht⟩
      have hFirst := hOpen.close hBefore (by rw [classify_kinds, h.length])
      have hKinds : ((m.classify (TokenKind.ofText t.text).isComment).complete (n + 1)).kinds =
          (m.kinds ++ [(m.classify (TokenKind.ofText t.text).isComment).kind]) ++
            List.replicate n (m.classify (TokenKind.ofText t.text).isComment).kind := by
        simp [List.replicate_succ]
      rw [hKinds]
      refine hFirst.append fun k hk hk' => lineFollows_inside ht ?_ ?_
      · simp [h.length] at hk
        omega
      · have hLen := h.length
        simp only [classify_kinds, List.length_append, List.length_singleton, List.length_replicate]
          at hk hk'
        rw [classify_kinds, List.append_assoc, List.singleton_append, ← List.replicate_succ,
          getElem?_append_replicate (K := m.kinds) (i := k - 1) (by omega) (by omega),
          getElem?_append_replicate (K := m.kinds) (i := lineFeeds P) (by omega) (by omega)]

theorem agrees_foldl (T : List Token) : (T.foldl step start).Agrees T := by
  induction T using List.reverseRecOn with
  | nil => exact agrees_start
  | append_singleton P t ih =>
    rw [List.foldl_append, List.foldl_cons, List.foldl_nil]
    exact ih.step

end Marks

end Weave
