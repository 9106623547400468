import Weave.Proofs.Lexing

/-! # What the tokens keep of a text -/

namespace Weave

open Weave.Text Weave.Token

set_option autoImplicit false

def shape (cs : List Char) : List Char :=
  cs.filter fun c => c == '\n' || !isBlank c

@[simp] theorem shape_nil : shape [] = [] := rfl

@[simp] theorem shape_append (xs ys : List Char) : shape (xs ++ ys) = shape xs ++ shape ys :=
  List.filter_append ..

@[simp] theorem shape_lineFeed (cs : List Char) : shape ('\n' :: cs) = '\n' :: shape cs := by
  simp [shape]

theorem shape_cons_of_blank {c : Char} (hBlank : isBlank c = true) (hc : c ≠ '\n') (cs : List Char) :
    shape (c :: cs) = shape cs := by
  simp [shape, hBlank, hc]

theorem shape_cons_of_visible {c : Char} (hVisible : isBlank c = false) (cs : List Char) :
    shape (c :: cs) = c :: shape cs := by
  simp [shape, hVisible]

theorem lineFeed_mem_shape {cs : List Char} : '\n' ∈ shape cs ↔ '\n' ∈ cs := by
  simp [shape]

theorem shape_eq_visible {cs : List Char} (h : '\n' ∉ cs) : shape cs = visible (String.ofList cs) := by
  simp only [shape, visible, String.toList_ofList]
  apply List.filter_congr
  intro c hc
  have hne : c ≠ '\n' := fun e => h (e ▸ hc)
  simp [hne]

theorem append_lineFeed_inj {a b a' b' : List Char} (ha : '\n' ∉ a) (ha' : '\n' ∉ a')
    (h : a ++ '\n' :: b = a' ++ '\n' :: b') : a = a' ∧ b = b' := by
  induction a generalizing a' with
  | nil =>
    cases a' with
    | nil => simpa using h
    | cons c a' =>
      obtain ⟨rfl, -⟩ := List.cons.inj h
      simp at ha'
  | cons c a ih =>
    cases a' with
    | nil =>
      obtain ⟨rfl, -⟩ := List.cons.inj h
      simp at ha
    | cons c' a' =>
      obtain ⟨rfl, hTail⟩ := List.cons.inj h
      obtain ⟨rfl, rfl⟩ := ih (by simp_all) (by simp_all) hTail
      exact ⟨rfl, rfl⟩

theorem shape_eq_lineFeed {u a b : List Char} (ha : '\n' ∉ a) (h : shape u = a ++ '\n' :: b) :
    ∃ l rest, '\n' ∉ l ∧ u = l ++ '\n' :: rest ∧ shape l = a ∧ shape rest = b := by
  rcases lineFeed_cases u with hNone | ⟨l, rest, hl, rfl⟩
  · have : '\n' ∈ shape u := by simp [h]
    exact absurd (lineFeed_mem_shape.1 this) hNone
  · rw [shape_append, shape_lineFeed] at h
    have hShape : '\n' ∉ shape l := fun hm => hl (lineFeed_mem_shape.1 hm)
    obtain ⟨hl', hRest⟩ := append_lineFeed_inj hShape ha h
    exact ⟨l, rest, hl, rfl, hl', hRest⟩

def EndsVisible (cs : List Char) : Prop :=
  ∃ c, (shape cs).getLast? = some c ∧ c ≠ '\n'

theorem EndsVisible.append_left {u : List Char} (h : EndsVisible u) (p : List Char) :
    EndsVisible (p ++ u) := by
  obtain ⟨c, hLast, hc⟩ := h
  exact ⟨c, by simp [List.getLast?_append, hLast], hc⟩

theorem EndsVisible.ne_nil {u : List Char} (h : EndsVisible u) : u ≠ [] := by
  rintro rfl
  obtain ⟨c, hLast, -⟩ := h
  simp at hLast

theorem EndsVisible.of_lineFeed {l rest : List Char} (h : EndsVisible (l ++ '\n' :: rest)) :
    EndsVisible rest := by
  obtain ⟨c, hLast, hc⟩ := h
  rw [shape_append, shape_lineFeed, List.getLast?_append, List.getLast?_cons, Option.some_or,
    Option.some.injEq] at hLast
  refine ⟨c, ?_, hc⟩
  cases hRest : (shape rest).getLast? with
  | none =>
    rw [hRest, Option.getD_none] at hLast
    exact absurd hLast.symm hc
  | some d =>
    rw [hRest, Option.getD_some] at hLast
    rw [hLast]

/-- Token text `x` stands for the text `u`: they have the same shape, or `x` has one more line
feed at the end where `u` ends in a line with a character that is not blank. The second case
is the newline token after a line comment that ends a text. -/
def Covers (x u : List Char) : Prop :=
  shape x = shape u ∨ (shape x = shape u ++ ['\n'] ∧ EndsVisible u)

theorem Covers.append {p p' x u : List Char} (hp : shape p = shape p') (h : Covers x u) :
    Covers (p ++ x) (p' ++ u) := by
  rcases h with hEq | ⟨hEq, hEnds⟩
  · exact .inl (by simp [hp, hEq])
  · exact .inr ⟨by simp [hp, hEq], hEnds.append_left p'⟩

theorem EndsVisible.append_visible (p : List Char) {c : Char} (hc : isBlank c = false) :
    EndsVisible (p ++ [c]) := by
  have hLineFeed : c ≠ '\n' := by
    rintro rfl
    exact absurd hc (by decide)
  exact ⟨c, by simp [shape_cons_of_visible hc, List.getLast?_append], hLineFeed⟩

theorem EndsVisible.of_shape {cs : List Char} (hNone : '\n' ∉ shape cs) (hne : shape cs ≠ []) :
    EndsVisible cs := by
  obtain ⟨c, hLast⟩ := Option.isSome_iff_exists.1 (List.getLast?_isSome.2 hne)
  refine ⟨c, hLast, ?_⟩
  rintro rfl
  exact hNone (List.mem_of_getLast? hLast)

theorem Covers.lineFeed {p x u : List Char} (hp : '\n' ∉ p) (h : Covers (p ++ '\n' :: x) u) :
    u ≠ [] ∧ shape p = shape (splitLine u).1 ∧ Covers x (splitLine u).2 := by
  have hShape : '\n' ∉ shape p := fun hm => hp (lineFeed_mem_shape.1 hm)
  rcases h with hEq | ⟨hEq, hEnds⟩
  · rw [shape_append, shape_lineFeed] at hEq
    obtain ⟨l, rest, hl, rfl, hl', hRest⟩ := shape_eq_lineFeed hShape hEq.symm
    rw [splitLine_append hl]
    exact ⟨by simp, hl'.symm, .inl hRest.symm⟩
  · rw [shape_append, shape_lineFeed] at hEq
    rcases lineFeed_cases u with hNone | ⟨l, rest, hl, rfl⟩
    · have hu : '\n' ∉ shape u := fun hm => hNone (lineFeed_mem_shape.1 hm)
      obtain ⟨hp', hx⟩ := append_lineFeed_inj hShape hu hEq
      rw [splitLine_of_not_mem hNone]
      exact ⟨hEnds.ne_nil, hp', .inl (by simpa using hx)⟩
    · rw [shape_append, shape_lineFeed, List.append_assoc, List.cons_append] at hEq
      have hl' : '\n' ∉ shape l := fun hm => hl (lineFeed_mem_shape.1 hm)
      obtain ⟨hp', hx⟩ := append_lineFeed_inj hShape hl' hEq
      rw [splitLine_append hl]
      exact ⟨by simp, hp', .inr ⟨hx, hEnds.of_lineFeed⟩⟩

theorem Covers.final {p u : List Char} (hp : '\n' ∉ p) (h : Covers p u) :
    '\n' ∉ u ∧ shape p = shape u := by
  have hShape : '\n' ∉ shape p := fun hm => hp (lineFeed_mem_shape.1 hm)
  rcases h with hEq | ⟨hEq, -⟩
  · refine ⟨fun hm => hShape ?_, hEq⟩
    rw [hEq]
    exact lineFeed_mem_shape.2 hm
  · exact absurd (by simp [hEq]) hShape

def tokenText (T : List Token) : List Char :=
  T.flatMap fun t => t.text.toList

@[simp] theorem tokenText_nil : tokenText [] = [] := rfl

@[simp] theorem tokenText_cons (t : Token) (T : List Token) :
    tokenText (t :: T) = t.text.toList ++ tokenText T := by
  simp [tokenText]

theorem shape_rtakeWhile_return (cs : List Char) : shape (cs.rtakeWhile (· == '\r')) = [] := by
  apply List.filter_eq_nil_iff.2
  intro c hc
  have : c = '\r' := by simpa using List.mem_rtakeWhile_imp hc
  subst this
  decide

theorem shape_commentText (cs : List Char) : shape (commentText cs).toList = shape cs := by
  have hSplit := List.rdropWhile_append_rtakeWhile (l := cs) (p := (· == '\r'))
  have hReturns := shape_rtakeWhile_return cs
  calc shape (commentText cs).toList = shape (cs.rdropWhile (· == '\r')) := by
        simp [commentText]
    _ = shape (cs.rdropWhile (· == '\r') ++ cs.rtakeWhile (· == '\r')) := by
        rw [shape_append, hReturns, List.append_nil]
    _ = shape cs := by rw [hSplit]

theorem Lexes.covers {cs : List Char} {T : List Token} (h : Lexes cs T) : Covers (tokenText T) cs := by
  induction h with
  | nil => exact .inl rfl
  | lineFeed _ ih =>
    have hLineFeed : shape ['\n'] = shape ['\n'] := rfl
    simpa [newline] using Covers.append hLineFeed ih
  | @blank c cs T hBlank hLineFeed _ ih =>
    have hShape : shape [] = shape [c] := by simp [shape_cons_of_blank hBlank hLineFeed]
    simpa using Covers.append hShape ih
  | @string body rest T _ _ ih =>
    simpa using Covers.append (p := '"' :: (body ++ ['"'])) rfl ih
  | @verbatim body rest T _ _ ih =>
    simpa using Covers.append (p := '@' :: '"' :: (body ++ ['"'])) rfl ih
  | @char body rest T _ _ ih =>
    simpa using Covers.append (p := '\'' :: (body ++ ['\''])) rfl ih
  | @blockComment body rest T _ _ ih =>
    simpa using Covers.append (p := '/' :: '*' :: (body ++ ['*', '/'])) rfl ih
  | @lineComment body rest T _ _ ih =>
    have hShape : shape ((commentText ('/' :: '/' :: body)).toList ++ ['\n']) =
        shape ('/' :: '/' :: (body ++ ['\n'])) := by
      rw [shape_append, shape_commentText, ← shape_append]
      rfl
    simpa [newline] using Covers.append hShape ih
  | @lastLineComment body hBody =>
    refine .inr ⟨by simp [newline, shape_commentText], EndsVisible.of_shape ?_ ?_⟩
    · intro hm
      exact hBody (by simpa using lineFeed_mem_shape.1 hm)
    · simp [shape_cons_of_visible (c := '/') (by decide)]
  | @bracket c cs T _ _ ih =>
    simpa using Covers.append (p := [c]) rfl ih
  | @word c w rest T _ _ ih =>
    simpa using Covers.append (p := c :: w) rfl ih

def Token.Solid (t : Token) : Prop :=
  t.isNewline = true ∨ EndsVisible t.text.toList

theorem isBlank_eq_false_of_isBracket {c : Char} (h : isBracket c = true) : isBlank c = false := by
  simp only [isBracket, Bool.or_eq_true, beq_iff_eq] at h
  rcases h with ((((((rfl | rfl) | rfl) | rfl) | rfl) | rfl) | rfl) | rfl <;> decide

theorem WordRun.visible {w rest : List Char} (h : WordRun w rest) : ∀ x ∈ w, isBlank x = false := by
  induction w with
  | nil => simp
  | cons c w ih => exact List.forall_mem_cons.2 ⟨h.1.1, ih h.2⟩

theorem Lexes.solid {cs : List Char} {T : List Token} (h : Lexes cs T) : ∀ t ∈ T, t.Solid := by
  have hNewline : newline.Solid := .inl rfl
  have hComment : ∀ body, '\n' ∉ body → EndsVisible (commentText ('/' :: '/' :: body)).toList := by
    intro body hBody
    apply EndsVisible.of_shape
    · intro hm
      rw [shape_commentText] at hm
      exact hBody (by simpa using lineFeed_mem_shape.1 hm)
    · simp [shape_commentText, shape_cons_of_visible (c := '/') (by decide)]
  induction h with
  | nil => simp
  | lineFeed _ ih => exact List.forall_mem_cons.2 ⟨hNewline, ih⟩
  | blank _ _ _ ih => exact ih
  | @string body _ _ _ _ ih =>
    refine List.forall_mem_cons.2 ⟨.inr ?_, ih⟩
    simpa using EndsVisible.append_visible ('"' :: body) (c := '"') (by decide)
  | @verbatim body _ _ _ _ ih =>
    refine List.forall_mem_cons.2 ⟨.inr ?_, ih⟩
    simpa using EndsVisible.append_visible ('@' :: '"' :: body) (c := '"') (by decide)
  | @char body _ _ _ _ ih =>
    refine List.forall_mem_cons.2 ⟨.inr ?_, ih⟩
    simpa using EndsVisible.append_visible ('\'' :: body) (c := '\'') (by decide)
  | @blockComment body _ _ _ _ ih =>
    refine List.forall_mem_cons.2 ⟨.inr ?_, ih⟩
    simpa using EndsVisible.append_visible ('/' :: '*' :: (body ++ ['*'])) (c := '/') (by decide)
  | @lineComment body _ _ hBody _ ih =>
    exact List.forall_mem_cons.2 ⟨.inr (hComment body hBody), List.forall_mem_cons.2 ⟨hNewline, ih⟩⟩
  | @lastLineComment body hBody =>
    exact List.forall_mem_cons.2 ⟨.inr (hComment body hBody), List.forall_mem_singleton.2 hNewline⟩
  | @bracket c _ _ hBracket _ ih =>
    refine List.forall_mem_cons.2 ⟨.inr ?_, ih⟩
    simpa using EndsVisible.append_visible [] (isBlank_eq_false_of_isBracket hBracket)
  | @word c w _ _ hRun _ ih =>
    refine List.forall_mem_cons.2 ⟨.inr ?_, ih⟩
    obtain ⟨init, last, hLast⟩ := (List.eq_nil_or_concat (c :: w)).resolve_left (by simp)
    rw [List.concat_eq_append] at hLast
    have hVisible : isBlank last = false := WordRun.visible hRun last (by simp [hLast])
    simpa [hLast] using EndsVisible.append_visible init hVisible

end Weave
