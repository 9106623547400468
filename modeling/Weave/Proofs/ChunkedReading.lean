import Weave.Proofs.Lexing
import Weave.Source.Reader

/-! # Reading a source in pieces -/

namespace Weave.CharReader

open Weave.Text Weave.Token

set_option autoImplicit false

def Unbroken (r : CharReader) : Prop :=
  ∀ p ∈ r.pieces, p ≠ []

/-- `r'` is the reader `r` once it has consumed the characters `b`: they were the front of
what was left, the line moved on by their line feeds, and still no later read comes back
empty. -/
structure Consumed (r : CharReader) (b : List Char) (r' : CharReader) : Prop where
  rest_eq : r.rest = b ++ r'.rest
  line_eq : r'.line = r.line + lineFeeds b
  unbroken : r'.Unbroken

@[simp] theorem lineFeeds_nil : lineFeeds [] = 0 := rfl

theorem lineFeeds_append (a b : List Char) : lineFeeds (a ++ b) = lineFeeds a + lineFeeds b := by
  simp [lineFeeds, List.count_append]

theorem lineFeeds_singleton (c : Char) : lineFeeds [c] = if c = '\n' then 1 else 0 := by
  by_cases h : c = '\n' <;> simp [lineFeeds, h]

theorem Consumed.rest_of_eq {r r' : CharReader} {b cs : List Char} (h : Consumed r b r')
    (hRest : r.rest = b ++ cs) : r'.rest = cs :=
  List.append_cancel_left (h.rest_eq.symm.trans hRest)

theorem Consumed.trans {r r' r'' : CharReader} {b b' : List Char} (h : Consumed r b r')
    (h' : Consumed r' b' r'') : Consumed r (b ++ b') r'' where
  rest_eq := by rw [h.rest_eq, h'.rest_eq, List.append_assoc]
  line_eq := by rw [h'.line_eq, h.line_eq, lineFeeds_append, Nat.add_assoc]
  unbroken := h'.unbroken

section Steps

variable {r r' : CharReader} {c : Char} {cs : List Char}

theorem fill_consumed (hr : r.Unbroken) : Consumed r [] r.fill.1 where
  rest_eq := (rest_fill r).symm
  line_eq := by
    unfold fill
    split
    · rfl
    · split <;> rfl
  unbroken := by
    unfold fill
    split
    · exact hr
    · split
      · next hp => simp [Unbroken, hp]
      · next p ps hp =>
        intro q hq
        exact hr q (by rw [hp]; exact List.mem_cons_of_mem p hq)

theorem fill_head (hr : r.Unbroken) : r.fill.1.buffer[r.fill.1.pos]? = r.rest.head? := by
  unfold fill rest
  split
  · next hLt =>
    rw [List.drop_eq_getElem_cons hLt]
    simp [List.getElem?_eq_getElem hLt]
  · next hLe =>
    have hDrop : r.buffer.drop r.pos = [] := List.drop_eq_nil_of_le (by omega)
    split
    · next hp => simp [hDrop, hp]
    · next p ps hp =>
      have hne : p ≠ [] := hr p (by simp [hp])
      cases p with
      | nil => exact absurd rfl hne
      | cons d ds => simp [hDrop, hp]

theorem fill_ready (hr : r.Unbroken) : r.fill.2 = !r.rest.isEmpty := by
  unfold fill rest
  split
  · next hLt =>
    rw [List.drop_eq_getElem_cons hLt]
    rfl
  · next hLe =>
    have hDrop : r.buffer.drop r.pos = [] := List.drop_eq_nil_of_le (by omega)
    split
    · next hp => simp [hDrop, hp]
    · next p ps hp =>
      have hne : p ≠ [] := hr p (by simp [hp])
      cases p with
      | nil => exact absurd rfl hne
      | cons d ds => simp [hDrop, hp]

theorem peek_consumed (hr : r.Unbroken) : Consumed r [] r.peek.1 :=
  fill_consumed hr

theorem peek_char (hr : r.Unbroken) : r.peek.2 = r.rest.head? := by
  simp only [peek, fill_ready hr, fill_head hr]
  cases r.rest <;> rfl

theorem read_of_rest_nil (hr : r.Unbroken) (h : r.rest = []) :
    r.read = (r.fill.1, none) ∧ Consumed r [] r.fill.1 := by
  refine ⟨?_, fill_consumed hr⟩
  simp [read, fill_ready hr, h]

theorem read_of_rest_cons (hr : r.Unbroken) (h : r.rest = c :: cs) :
    ∃ r', r.read = (r', some c) ∧ Consumed r [c] r' := by
  have hHead : r.fill.1.buffer[r.fill.1.pos]? = some c := by rw [fill_head hr, h]; rfl
  have hFill := fill_consumed hr
  refine ⟨⟨r.fill.1.buffer, r.fill.1.pos + 1, r.fill.1.pieces,
    if c == '\n' then r.fill.1.line + 1 else r.fill.1.line⟩, ?_, ?_⟩
  · simp [read, fill_ready hr, h, hHead]
  obtain ⟨hLt, hGet⟩ := List.getElem?_eq_some_iff.1 hHead
  refine ⟨?_, ?_, hFill.unbroken⟩
  · rw [hFill.rest_eq, List.nil_append]
    simp only [rest]
    rw [List.drop_eq_getElem_cons hLt, hGet, List.cons_append, List.singleton_append]
  · rw [hFill.line_eq, lineFeeds_singleton]
    by_cases hc : c = '\n' <;> simp [hc]

theorem read_some (hr : r.Unbroken) (h : r.read = (r', some c)) : Consumed r [c] r' := by
  cases hRest : r.rest with
  | nil =>
    rw [(read_of_rest_nil hr hRest).1] at h
    cases h
  | cons d ds =>
    obtain ⟨q, hq, hCons⟩ := read_of_rest_cons hr hRest
    rw [hq] at h
    obtain ⟨rfl, rfl⟩ : q = r' ∧ d = c := by simpa using h
    exact hCons

theorem read_none (hr : r.Unbroken) (h : r.read = (r', none)) : r.rest = [] ∧ Consumed r [] r' := by
  cases hRest : r.rest with
  | nil =>
    obtain ⟨hq, hCons⟩ := read_of_rest_nil hr hRest
    rw [hq] at h
    cases h
    exact ⟨rfl, hCons⟩
  | cons d ds =>
    obtain ⟨q, hq, -⟩ := read_of_rest_cons hr hRest
    rw [hq] at h
    cases h

theorem nextAfter_consumed (hr : r.Unbroken) (c first next : Char) :
    Consumed r [] (r.nextAfter c first next).1 := by
  unfold nextAfter
  split
  · exact peek_consumed hr
  · exact ⟨rfl, rfl, hr⟩

theorem nextAfter_answer (hr : r.Unbroken) (c first next : Char) :
    (r.nextAfter c first next).2 = (c == first && r.rest.head? == some next) := by
  unfold nextAfter nextIs
  split <;> simp_all [peek_char hr]

theorem opening_consumed (hr : r.Unbroken) (c : Char) : Consumed r [] (r.opening c).1 := by
  have h₁ := nextAfter_consumed hr c '@' '"'
  have h₂ := nextAfter_consumed h₁.unbroken c '/' '*'
  have h₃ := nextAfter_consumed h₂.unbroken c '/' '/'
  have h₂₁ : Consumed r [] _ := h₁.trans h₂
  have h₃₁ : Consumed r [] _ := h₂₁.trans h₃
  unfold opening
  simp only [apply_ite Prod.fst]
  split_ifs
  all_goals first
    | exact ⟨rfl, rfl, hr⟩
    | exact h₁
    | exact h₂₁
    | exact h₃₁

theorem opening_answer (hr : r.Unbroken) (c : Char) : (r.opening c).2 = Opening.read c r.rest := by
  have h₁ := nextAfter_consumed hr c '@' '"'
  have h₂ := nextAfter_consumed h₁.unbroken c '/' '*'
  have hRest₁ : (r.nextAfter c '@' '"').1.rest = r.rest := by simpa using h₁.rest_eq.symm
  have hRest₂ : ((r.nextAfter c '@' '"').1.nextAfter c '/' '*').1.rest = r.rest := by
    rw [← hRest₁]; simpa using h₂.rest_eq.symm
  unfold opening Opening.read
  simp only [apply_ite Prod.snd, nextAfter_answer hr, nextAfter_answer h₁.unbroken,
    nextAfter_answer h₂.unbroken, hRest₁, hRest₂]

end Steps

section Gatherers

variable {r r' : CharReader} {c : Char}

theorem untilLoop_of_read_none (h : r.read = (r', none)) (close : Char) (escaped : Bool)
    (token : List Char) : untilLoop close escaped token r = none := by
  rw [untilLoop]
  split <;> simp_all

theorem untilLoop_of_read_some (h : r.read = (r', some c)) (close : Char) (escaped : Bool)
    (token : List Char) :
    untilLoop close escaped token r =
      if c == close && !escaped then some (token ++ [c], r')
      else untilLoop close (c == '\\' && !escaped) (token ++ [c]) r' := by
  rw [untilLoop]
  split <;> simp_all

theorem untilLoop_of_readQuoted_none {close : Char} {escaped : Bool} {token : List Char}
    (hr : r.Unbroken) (h : readQuoted close escaped r.rest = none) :
    untilLoop close escaped token r = none := by
  generalize hRest : r.rest = cs at h
  induction cs generalizing r escaped token with
  | nil => exact untilLoop_of_read_none (read_of_rest_nil hr hRest).1 close escaped token
  | cons c cs ih =>
    obtain ⟨r₁, hRead, hCons⟩ := read_of_rest_cons hr hRest
    rw [untilLoop_of_read_some hRead]
    simp only [readQuoted] at h
    split at h
    · cases h
    · next hGo =>
      rw [if_neg hGo]
      exact ih hCons.unbroken (hCons.rest_of_eq hRest) (Option.map_eq_none_iff.1 h)

theorem untilLoop_of_readQuoted_some {close : Char} {escaped : Bool} {b rest : List Char}
    (hr : r.Unbroken) (h : readQuoted close escaped r.rest = some (b, rest)) (token : List Char) :
    ∃ r', untilLoop close escaped token r = some (token ++ b, r') ∧ r'.rest = rest ∧
      Consumed r b r' := by
  generalize hRest : r.rest = cs at h
  induction cs generalizing r escaped token b with
  | nil => simp [readQuoted] at h
  | cons c cs ih =>
    obtain ⟨r₁, hRead, hCons⟩ := read_of_rest_cons hr hRest
    have hRest₁ := hCons.rest_of_eq hRest
    rw [untilLoop_of_read_some hRead]
    simp only [readQuoted] at h
    split at h
    · next hStop =>
      obtain ⟨rfl, rfl⟩ : [c] = b ∧ cs = rest := by simpa using h
      exact ⟨r₁, by rw [if_pos hStop], hRest₁, hCons⟩
    · next hGo =>
      obtain ⟨⟨b', rest'⟩, hRec, hb⟩ := Option.map_eq_some_iff.1 h
      obtain ⟨rfl, rfl⟩ : c :: b' = b ∧ rest' = rest := by simpa using hb
      obtain ⟨r₂, hLoop, hRest₂, hCons₂⟩ := ih hCons.unbroken (token ++ [c]) hRest₁ hRec
      refine ⟨r₂, ?_, hRest₂, hCons.trans hCons₂⟩
      rw [if_neg hGo, hLoop, List.append_assoc]
      rfl

theorem chompUntil_of_readQuoted_none {close : Char} (hr : r.Unbroken)
    (h : readQuoted close false r.rest = none) (token : List Char) (line : Nat) :
    chompUntil close token line r = .error (.unterminatedLiteral (String.ofList token) line "") := by
  simp [chompUntil, untilLoop_of_readQuoted_none hr h]

theorem chompUntil_of_readQuoted_some {close : Char} {b rest : List Char} (hr : r.Unbroken)
    (h : readQuoted close false r.rest = some (b, rest)) (token : List Char) (line : Nat) :
    ∃ r', chompUntil close token line r = .ok (token ++ b, r') ∧ r'.rest = rest ∧
      Consumed r b r' := by
  obtain ⟨r', hLoop, hRest, hCons⟩ := untilLoop_of_readQuoted_some hr h token
  exact ⟨r', by simp [chompUntil, hLoop], hRest, hCons⟩

theorem chompBlock_of_read_none (h : r.read = (r', none)) (token : List Char) (line : Nat) :
    chompBlock token line r = .error (.unterminatedLiteral "/*" line "") := by
  rw [chompBlock]
  split <;> simp_all

theorem chompBlock_of_read_some (h : r.read = (r', some c)) (token : List Char) (line : Nat) :
    chompBlock token line r =
      if c == '/' && (token ++ [c]).length > 3 && token.getLast? == some '*' then .ok (token ++ [c], r')
      else chompBlock (token ++ [c]) line r' := by
  rw [chompBlock]
  split <;> simp_all

theorem closes_iff (pre : List Char) (c : Char) :
    (c == '/' && (('/' :: '*' :: pre) ++ [c]).length > 3 &&
      ('/' :: '*' :: pre).getLast? == some '*') = true ↔ ['*', '/'] <:+ pre ++ [c] := by
  rcases List.eq_nil_or_concat pre with rfl | ⟨L, d, rfl⟩
  · simp only [List.nil_append, List.cons_append, List.length_cons, List.length_nil,
      gt_iff_lt, Nat.lt_irrefl, decide_false, Bool.and_false, Bool.false_and, Bool.false_eq_true,
      false_iff]
    exact fun h => by simpa using h.length_le
  · rw [List.concat_eq_append]
    have hLast : ('/' :: '*' :: (L ++ [d])).getLast? = some d := by
      rw [← List.cons_append, ← List.cons_append, List.getLast?_concat]
    rw [hLast, ← List.reverse_prefix]
    simp only [List.append_assoc, List.reverse_append, List.reverse_cons, List.reverse_nil,
      List.nil_append, List.cons_append, List.cons_prefix_cons, List.nil_prefix, and_true]
    simp [and_comm]
    exact and_congr eq_comm eq_comm

theorem readBlock_of_closes {pre cs : List Char} (hPre : ¬ ['*', '/'] <:+: pre)
    (hClose : ['*', '/'] <:+ pre ++ [c]) : readBlock (pre ++ c :: cs) = some (pre ++ [c], cs) := by
  obtain ⟨body, hBody⟩ := hClose
  have hFree : ¬ ['*', '/'] <:+: body := by
    intro hInfix
    apply hPre
    have hPreEq : pre = body ++ ['*'] := by
      have := congrArg List.dropLast hBody
      simpa using this.symm
    rw [hPreEq]
    exact List.infix_append_of_infix_left hInfix
  refine readBlock_eq_some_iff.2 ⟨body, hFree, ?_, hBody.symm⟩
  rw [← List.singleton_append, ← List.append_assoc, ← hBody]
  simp

theorem not_infix_snoc {pre : List Char} (hPre : ¬ ['*', '/'] <:+: pre)
    (hOpen : ¬ ['*', '/'] <:+ pre ++ [c]) : ¬ ['*', '/'] <:+: pre ++ [c] := by
  rw [List.infix_concat_iff]
  rintro (h | h)
  · exact hOpen h
  · exact hPre h

theorem chompBlock_of_readBlock_none (hr : r.Unbroken) {pre : List Char}
    (hPre : ¬ ['*', '/'] <:+: pre) (h : readBlock (pre ++ r.rest) = none) (line : Nat) :
    chompBlock ('/' :: '*' :: pre) line r = .error (.unterminatedLiteral "/*" line "") := by
  generalize hRest : r.rest = cs at h
  induction cs generalizing r pre with
  | nil => exact chompBlock_of_read_none (read_of_rest_nil hr hRest).1 _ line
  | cons c cs ih =>
    obtain ⟨r₁, hRead, hCons⟩ := read_of_rest_cons hr hRest
    have hOpen : ¬ ['*', '/'] <:+ pre ++ [c] := by
      intro hClose
      rw [readBlock_of_closes hPre hClose] at h
      cases h
    rw [chompBlock_of_read_some hRead, if_neg (mt (closes_iff pre c).1 hOpen)]
    exact ih hCons.unbroken (not_infix_snoc hPre hOpen) (hCons.rest_of_eq hRest) (by simpa using h)

theorem chompBlock_of_readBlock_some (hr : r.Unbroken) {pre x rest : List Char}
    (hPre : ¬ ['*', '/'] <:+: pre) (h : readBlock (pre ++ r.rest) = some (x, rest)) (line : Nat) :
    ∃ b r', chompBlock ('/' :: '*' :: pre) line r = .ok ('/' :: '*' :: x, r') ∧ x = pre ++ b ∧
      r'.rest = rest ∧ Consumed r b r' := by
  generalize hRest : r.rest = cs at h
  induction cs generalizing r pre with
  | nil =>
    obtain ⟨body, -, hText, -⟩ := readBlock_eq_some_iff.1 h
    exact absurd ⟨body, rest, by simpa using hText.symm⟩ hPre
  | cons c cs ih =>
    obtain ⟨r₁, hRead, hCons⟩ := read_of_rest_cons hr hRest
    have hRest₁ := hCons.rest_of_eq hRest
    rw [chompBlock_of_read_some hRead]
    by_cases hClose : ['*', '/'] <:+ pre ++ [c]
    · rw [if_pos ((closes_iff pre c).2 hClose)]
      rw [readBlock_of_closes hPre hClose] at h
      obtain ⟨rfl, rfl⟩ : pre ++ [c] = x ∧ cs = rest := by simpa using h
      exact ⟨[c], r₁, rfl, rfl, hRest₁, hCons⟩
    · rw [if_neg (mt (closes_iff pre c).1 hClose)]
      obtain ⟨b, r₂, hChomp, rfl, hRest₂, hCons₂⟩ :=
        ih hCons.unbroken (not_infix_snoc hPre hClose) hRest₁ (by simpa using h)
      exact ⟨c :: b, r₂, hChomp, by simp, hRest₂, hCons.trans hCons₂⟩

theorem chompLine_of_read_none (h : r.read = (r', none)) (token : List Char) :
    chompLine token r = (trimLineEnd token, r') := by
  rw [chompLine]
  split <;> simp_all

theorem chompLine_of_read_some (h : r.read = (r', some c)) (token : List Char) :
    chompLine token r = if c == '\n' then (trimLineEnd token, r') else chompLine (token ++ [c]) r' := by
  rw [chompLine]
  split <;> simp_all

theorem chompLine_spec (hr : r.Unbroken) (token : List Char) :
    ∃ r', chompLine token r = (trimLineEnd (token ++ (splitLine r.rest).1), r') ∧
      r'.rest = (splitLine r.rest).2 ∧ r'.Unbroken ∧ (r'.rest = [] ∨ r'.line = r.line + 1) := by
  generalize hRest : r.rest = cs
  induction cs generalizing r token with
  | nil =>
    obtain ⟨hRead, hCons⟩ := read_of_rest_nil hr hRest
    have hEnd : r.fill.1.rest = [] := hCons.rest_of_eq (by simpa using hRest)
    refine ⟨r.fill.1, ?_, ?_, hCons.unbroken, .inl hEnd⟩
    · rw [chompLine_of_read_none hRead]
      simp [splitLine]
    · simp [splitLine, hEnd]
  | cons c cs ih =>
    obtain ⟨r₁, hRead, hCons⟩ := read_of_rest_cons hr hRest
    have hRest₁ := hCons.rest_of_eq hRest
    rw [chompLine_of_read_some hRead]
    by_cases hc : c = '\n'
    · subst hc
      refine ⟨r₁, by simp [splitLine], by simp [splitLine, hRest₁], hCons.unbroken, .inr ?_⟩
      simp [hCons.line_eq, lineFeeds]
    · obtain ⟨r₂, hChomp, hRest₂, hBroken, hLine⟩ := ih hCons.unbroken (token ++ [c]) hRest₁
      refine ⟨r₂, ?_, ?_, hBroken, ?_⟩
      · simp [hc, hChomp, splitLine]
      · simp [hRest₂, splitLine, hc]
      · rcases hLine with hEnd | hNext
        · exact .inl hEnd
        · right
          rw [hNext, hCons.line_eq, lineFeeds_singleton, if_neg hc]

end Gatherers

section Inversions

variable {r r' : CharReader} {close : Char} {token t : List Char} {line : Nat} {e : Fault}

theorem chompUntil_eq_error (hr : r.Unbroken) (h : chompUntil close token line r = .error e) :
    readQuoted close false r.rest = none ∧ e = .unterminatedLiteral (String.ofList token) line "" := by
  cases hq : readQuoted close false r.rest with
  | none =>
    rw [chompUntil_of_readQuoted_none hr hq] at h
    exact ⟨rfl, (Except.error.inj h).symm⟩
  | some p =>
    obtain ⟨r'', hChomp, -⟩ := chompUntil_of_readQuoted_some hr hq token line
    rw [hChomp] at h
    cases h

theorem chompUntil_eq_ok (hr : r.Unbroken) (h : chompUntil close token line r = .ok (t, r')) :
    ∃ b, readQuoted close false r.rest = some (b, r'.rest) ∧ t = token ++ b ∧ Consumed r b r' := by
  cases hq : readQuoted close false r.rest with
  | none =>
    rw [chompUntil_of_readQuoted_none hr hq] at h
    cases h
  | some p =>
    obtain ⟨b, rest⟩ := p
    obtain ⟨r'', hChomp, hRest, hCons⟩ := chompUntil_of_readQuoted_some hr hq token line
    rw [hChomp] at h
    obtain ⟨rfl, rfl⟩ : token ++ b = t ∧ r'' = r' := by simpa using h
    exact ⟨b, by rw [hRest], rfl, hCons⟩

theorem chompBlock_eq_error (hr : r.Unbroken) (h : chompBlock ['/', '*'] line r = .error e) :
    readBlock r.rest = none ∧ e = .unterminatedLiteral "/*" line "" := by
  have hFree : ¬ ['*', '/'] <:+: ([] : List Char) := fun h => by simpa using h.length_le
  cases hb : readBlock r.rest with
  | none =>
    rw [chompBlock_of_readBlock_none hr hFree (by simpa using hb)] at h
    exact ⟨rfl, (Except.error.inj h).symm⟩
  | some p =>
    obtain ⟨x, rest⟩ := p
    obtain ⟨b, r'', hChomp, -⟩ := chompBlock_of_readBlock_some hr hFree (by simpa using hb) line
    rw [hChomp] at h
    cases h

theorem chompBlock_eq_ok (hr : r.Unbroken) (h : chompBlock ['/', '*'] line r = .ok (t, r')) :
    ∃ b, readBlock r.rest = some (b, r'.rest) ∧ t = '/' :: '*' :: b ∧ Consumed r b r' := by
  have hFree : ¬ ['*', '/'] <:+: ([] : List Char) := fun h => by simpa using h.length_le
  cases hb : readBlock r.rest with
  | none =>
    rw [chompBlock_of_readBlock_none hr hFree (by simpa using hb)] at h
    cases h
  | some p =>
    obtain ⟨x, rest⟩ := p
    obtain ⟨b, r'', hChomp, hx, hRest, hCons⟩ :=
      chompBlock_of_readBlock_some hr hFree (by simpa using hb) line
    rw [List.nil_append] at hx
    subst hx
    rw [hChomp] at h
    obtain ⟨rfl, rfl⟩ : '/' :: '*' :: x = t ∧ r'' = r' := by simpa using h
    exact ⟨x, by rw [hRest], rfl, hCons⟩

end Inversions

theorem trimLineEnd_eq {l : List Char} (h : '\n' ∉ l) :
    trimLineEnd l = (l.reverse.dropWhile (· == '\r')).reverse := by
  unfold trimLineEnd
  congr 1
  have hRev : '\n' ∉ l.reverse := by simpa using h
  generalize l.reverse = m at hRev
  induction m with
  | nil => rfl
  | cons d m ih =>
    have hd : d ≠ '\n' := fun hd => hRev (hd ▸ List.mem_cons_self)
    simp only [List.dropWhile_cons, Bool.or_eq_true, beq_iff_eq, hd, or_false]
    split <;> simp_all

end Weave.CharReader

namespace Weave.Token

open Weave.Text CharReader

set_option autoImplicit false

section Failures

variable {acc : Array Token} {line : Nat} {c : Char} {cs : List Char}

@[simp] theorem lexFrom_nil : lexFrom acc line [] = .ok acc := by
  rw [lexFrom]

theorem lexFrom_string_none (h : Opening.read c cs = .string) (hr : readQuoted '"' false cs = none) :
    lexFrom acc line (c :: cs) = .error (.unterminatedLiteral "\"" line "") := by
  rw [lexFrom]
  split <;> simp_all
  split <;> simp_all

theorem lexFrom_verbatim_none (h : Opening.read c cs = .verbatim)
    (hr : readQuoted '"' false cs.tail = none) :
    lexFrom acc line (c :: cs) = .error (.unterminatedLiteral "@\"" line "") := by
  rw [lexFrom]
  split <;> simp_all
  split <;> simp_all

theorem lexFrom_char_none (h : Opening.read c cs = .char) (hr : readQuoted '\'' false cs = none) :
    lexFrom acc line (c :: cs) = .error (.unterminatedLiteral "'" line "") := by
  rw [lexFrom]
  split <;> simp_all
  split <;> simp_all

theorem lexFrom_blockComment_none (h : Opening.read c cs = .blockComment)
    (hr : readBlock cs.tail = none) :
    lexFrom acc line (c :: cs) = .error (.unterminatedLiteral "/*" line "") := by
  rw [lexFrom]
  split <;> simp_all
  split <;> simp_all

end Failures

theorem lexFrom_pushWord {word rest : List Char} (hWord : WordRun word rest) (acc : Array Token)
    (line : Nat) : lexFrom acc line (word ++ rest) = lexFrom (pushWord acc word) line rest := by
  cases word with
  | nil => simp [pushWord]
  | cons d w =>
    have hRead : Opening.read d (w ++ rest) = .wordChar := read_eq_wordChar_iff.2 hWord.1
    rw [List.cons_append, lexFrom_wordChar hRead, ← List.cons_append, spanWord_of_wordRun hWord]
    simp [pushWord]

variable {tokens : Array Token} {word : List Char} {r r₁ r₂ : CharReader} {c : Char} {o : Opening}

theorem step_of_opening (hr : r.Unbroken) (h : r.read = (r₁, some c)) (ho : r₁.opening c = (r₂, o)) :
    Consumed r [c] r₂ ∧ Opening.read c r₂.rest = o := by
  have hCons := read_some hr h
  have hLook := opening_consumed hCons.unbroken c
  have hAnswer := opening_answer hCons.unbroken c
  rw [ho] at hLook hAnswer
  have hRest : r₂.rest = r₁.rest := by simpa using hLook.rest_eq.symm
  refine ⟨hCons.trans hLook, ?_⟩
  rw [hRest]
  exact hAnswer.symm

theorem lexFrom_of_step (hr : r.Unbroken) (h : r.read = (r₁, some c)) (ho : r₁.opening c = (r₂, o))
    (hWord : WordRun (word ++ (spanWord r.rest).1) (spanWord r.rest).2) (hBreak : o ≠ .wordChar) :
    lexFrom tokens r.line (word ++ r.rest) = lexFrom (pushWord tokens word) r.line (c :: r₂.rest) := by
  obtain ⟨hCons, hOpen⟩ := step_of_opening hr h ho
  have hSpan : spanWord (c :: r₂.rest) = ([], c :: r₂.rest) := by
    simp [spanWord, hOpen, hBreak]
  rw [hCons.rest_eq, List.singleton_append] at hWord ⊢
  rw [hSpan] at hWord
  exact lexFrom_pushWord (by simpa using hWord) tokens r.line

theorem read_second {d : Char} {o' : Option Char} (hr : r.Unbroken) (hHead : r.rest.head? = some d)
    (h : r.read = (r₁, o')) : o' = some d ∧ Consumed r [d] r₁ := by
  obtain ⟨cs, hRest⟩ : ∃ cs, r.rest = d :: cs := by
    cases hr' : r.rest with
    | nil => simp [hr'] at hHead
    | cons d' cs => simp only [hr', List.head?_cons, Option.some.injEq] at hHead; exact ⟨cs, hHead ▸ rfl⟩
  obtain ⟨r', hRead, hCons⟩ := read_of_rest_cons hr hRest
  rw [hRead] at h
  obtain ⟨rfl, rfl⟩ : r' = r₁ ∧ some d = o' := by simpa using h
  exact ⟨rfl, hCons⟩

theorem wordRun_start (r : CharReader) : WordRun ([] ++ (spanWord r.rest).1) (spanWord r.rest).2 := by
  simpa using spanWord_wordRun r.rest

theorem tokenizeFrom_eq_lexFrom (tokens : Array Token) (word : List Char) (r : CharReader)
    (hr : r.Unbroken) (hWord : WordRun (word ++ (spanWord r.rest).1) (spanWord r.rest).2) :
    tokenizeFrom tokens word r = lexFrom tokens r.line (word ++ r.rest) := by
  fun_induction tokenizeFrom tokens word r with
  | case1 tokens word r r₁ h =>
    obtain ⟨hEnd, -⟩ := read_none hr h
    rw [hEnd] at hWord ⊢
    rw [← List.append_nil word, lexFrom_pushWord (by simpa [spanWord] using hWord)]
    simp
  | case2 tokens word r r₁ c h r₂ ho ih =>
    obtain ⟨hCons, hOpen⟩ := step_of_opening hr h ho
    rw [ih hCons.unbroken (wordRun_start r₂), lexFrom_of_step hr h ho hWord (by decide),
      lexFrom_lineFeed hOpen, hCons.line_eq, read_eq_lineFeed_iff.1 hOpen]
    rfl
  | case3 tokens word r r₁ c h r₂ ho ih =>
    obtain ⟨hCons, hOpen⟩ := step_of_opening hr h ho
    have hc : c ≠ '\n' := (read_eq_blank_iff.1 hOpen).2
    rw [ih hCons.unbroken (wordRun_start r₂), lexFrom_of_step hr h ho hWord (by decide),
      lexFrom_blank hOpen, hCons.line_eq, lineFeeds_singleton, if_neg hc]
    rfl
  | case4 tokens word r r₁ c h r₂ ho e hc =>
    obtain ⟨hCons, hOpen⟩ := step_of_opening hr h ho
    obtain rfl := read_eq_string_iff.1 hOpen
    obtain ⟨hq, rfl⟩ := chompUntil_eq_error hCons.unbroken hc
    rw [lexFrom_of_step hr h ho hWord (by decide), lexFrom_string_none hOpen hq, hCons.line_eq]
    rfl
  | case5 tokens word r r₁ c h r₂ ho t r₃ hc ih =>
    obtain ⟨hCons, hOpen⟩ := step_of_opening hr h ho
    obtain rfl := read_eq_string_iff.1 hOpen
    obtain ⟨b, hq, rfl, hCons'⟩ := chompUntil_eq_ok hCons.unbroken hc
    rw [ih hCons'.unbroken (wordRun_start r₃), lexFrom_of_step hr h ho hWord (by decide),
      lexFrom_string hOpen hq, hCons'.line_eq, hCons.line_eq]
    rfl
  | case6 tokens word r r₁ c h r₂ ho r₃ quote hq e hc =>
    obtain ⟨hCons, hOpen⟩ := step_of_opening hr h ho
    obtain ⟨rfl, hHead⟩ := read_eq_verbatim_iff.1 hOpen
    obtain ⟨rfl, hQuote⟩ := read_second hCons.unbroken hHead hq
    obtain ⟨hNone, rfl⟩ := chompUntil_eq_error hQuote.unbroken hc
    have hTail : r₂.rest.tail = r₃.rest := by rw [hQuote.rest_eq]; rfl
    rw [lexFrom_of_step hr h ho hWord (by decide), lexFrom_verbatim_none hOpen (hTail ▸ hNone),
      hQuote.line_eq, hCons.line_eq]
    rfl
  | case7 tokens word r r₁ c h r₂ ho r₃ quote hq t r₄ hc ih =>
    obtain ⟨hCons, hOpen⟩ := step_of_opening hr h ho
    obtain ⟨rfl, hHead⟩ := read_eq_verbatim_iff.1 hOpen
    obtain ⟨rfl, hQuote⟩ := read_second hCons.unbroken hHead hq
    obtain ⟨b, hSome, rfl, hCons'⟩ := chompUntil_eq_ok hQuote.unbroken hc
    have hTail : r₂.rest.tail = r₃.rest := by rw [hQuote.rest_eq]; rfl
    rw [ih hCons'.unbroken (wordRun_start r₄), lexFrom_of_step hr h ho hWord (by decide),
      lexFrom_verbatim hOpen (hTail ▸ hSome), hCons'.line_eq, hQuote.line_eq, hCons.line_eq]
    rfl
  | case8 tokens word r r₁ c h r₂ ho e hc =>
    obtain ⟨hCons, hOpen⟩ := step_of_opening hr h ho
    obtain rfl := read_eq_char_iff.1 hOpen
    obtain ⟨hq, rfl⟩ := chompUntil_eq_error hCons.unbroken hc
    rw [lexFrom_of_step hr h ho hWord (by decide), lexFrom_char_none hOpen hq, hCons.line_eq]
    rfl
  | case9 tokens word r r₁ c h r₂ ho t r₃ hc ih =>
    obtain ⟨hCons, hOpen⟩ := step_of_opening hr h ho
    obtain rfl := read_eq_char_iff.1 hOpen
    obtain ⟨b, hq, rfl, hCons'⟩ := chompUntil_eq_ok hCons.unbroken hc
    rw [ih hCons'.unbroken (wordRun_start r₃), lexFrom_of_step hr h ho hWord (by decide),
      lexFrom_char hOpen hq, hCons'.line_eq, hCons.line_eq]
    rfl
  | case10 tokens word r r₁ c h r₂ ho r₃ star hs e hc =>
    obtain ⟨hCons, hOpen⟩ := step_of_opening hr h ho
    obtain ⟨rfl, hHead⟩ := read_eq_blockComment_iff.1 hOpen
    obtain ⟨rfl, hStar⟩ := read_second hCons.unbroken hHead hs
    obtain ⟨hNone, rfl⟩ := chompBlock_eq_error hStar.unbroken hc
    have hTail : r₂.rest.tail = r₃.rest := by rw [hStar.rest_eq]; rfl
    rw [lexFrom_of_step hr h ho hWord (by decide), lexFrom_blockComment_none hOpen (hTail ▸ hNone),
      hCons.line_eq]
    rfl
  | case11 tokens word r r₁ c h r₂ ho r₃ star hs t r₄ hc ih =>
    obtain ⟨hCons, hOpen⟩ := step_of_opening hr h ho
    obtain ⟨rfl, hHead⟩ := read_eq_blockComment_iff.1 hOpen
    obtain ⟨rfl, hStar⟩ := read_second hCons.unbroken hHead hs
    obtain ⟨b, hSome, rfl, hCons'⟩ := chompBlock_eq_ok hStar.unbroken hc
    have hTail : r₂.rest.tail = r₃.rest := by rw [hStar.rest_eq]; rfl
    rw [ih hCons'.unbroken (wordRun_start r₄), lexFrom_of_step hr h ho hWord (by decide),
      lexFrom_blockComment hOpen (hTail ▸ hSome), hCons'.line_eq, hStar.line_eq, hCons.line_eq]
    rfl
  | case12 tokens word r r₁ c h r₂ ho t r₃ hc ih =>
    obtain ⟨hCons, hOpen⟩ := step_of_opening hr h ho
    obtain ⟨rfl, -⟩ := read_eq_lineComment_iff.1 hOpen
    obtain ⟨r', hChomp, hRest', hBroken, hLine⟩ := chompLine_spec hCons.unbroken ['/']
    rw [hc] at hChomp
    obtain ⟨rfl, rfl⟩ : t = _ ∧ r₃ = r' := Prod.mk.inj hChomp
    rw [ih hBroken (wordRun_start r₃), lexFrom_of_step hr h ho hWord (by decide),
      lexFrom_lineComment hOpen, ← hRest', lineComment,
      trimLineEnd_eq (by simpa using lineFeed_not_mem_splitLine r₂.rest)]
    rcases hLine with hEnd | hNext
    · simp [hEnd]
    · rw [hNext, hCons.line_eq]
      rfl
  | case13 tokens word r r₁ c h r₂ ho ih =>
    obtain ⟨hCons, hOpen⟩ := step_of_opening hr h ho
    have hc : c ≠ '\n' := fun hc => by simp [hc, Opening.read] at hOpen
    rw [ih hCons.unbroken (wordRun_start r₂), lexFrom_of_step hr h ho hWord (by decide),
      lexFrom_bracket hOpen, hCons.line_eq, lineFeeds_singleton, if_neg hc]
    rfl
  | case14 tokens word r r₁ c h r₂ ho ih =>
    obtain ⟨hCons, hOpen⟩ := step_of_opening hr h ho
    have hc : c ≠ '\n' := fun hc => by simp [hc, Opening.read] at hOpen
    have hSpan : spanWord (c :: r₂.rest) = (c :: (spanWord r₂.rest).1, (spanWord r₂.rest).2) := by
      simp [spanWord, hOpen]
    rw [hCons.rest_eq, List.singleton_append, hSpan] at hWord
    rw [ih hCons.unbroken (by simpa using hWord), hCons.line_eq, hCons.rest_eq, lineFeeds_singleton,
      if_neg hc]
    simp

theorem tokenizeStream_eq_lex (s : String) (pieces : List (List Char))
    (hPieces : ∀ p ∈ pieces, p ≠ []) (hText : pieces.flatten = s.toList) :
    tokenizeStream pieces = lex s := by
  have hStart : (CharReader.start pieces).rest = s.toList := by simp [CharReader.start, rest, hText]
  unfold tokenizeStream lex
  rw [tokenizeFrom_eq_lexFrom #[] [] (CharReader.start pieces) hPieces
    (by simpa [hStart] using spanWord_wordRun s.toList), hStart]
  rfl

theorem tokenizeStream_single (s : String) : tokenizeStream [s.toList] = lex s := by
  by_cases hs : s.toList = []
  · have hRead : (CharReader.start [s.toList]).read = (⟨[], 0, [], 1⟩, none) := by
      simp [CharReader.start, CharReader.read, CharReader.fill, hs]
    unfold tokenizeStream lex
    rw [tokenizeFrom, hs]
    split <;> simp_all [pushWord]
  · exact tokenizeStream_eq_lex s [s.toList] (by simpa using hs) (by simp)

/-- Reading a text in pieces of any sizes gives the tokens, or the literal left open with the
line it opened on, that reading it in one piece gives; so an opening such as `/*` split
between two pieces is read as when it is not. -/
theorem tokenizeStream_eq_single (s : String) (pieces : List (List Char))
    (hPieces : ∀ p ∈ pieces, p ≠ []) (hText : pieces.flatten = s.toList) :
    tokenizeStream pieces = tokenizeStream [s.toList] := by
  rw [tokenizeStream_eq_lex s pieces hPieces hText, tokenizeStream_single]

/-- A block comment whose opening `/*` is split between two reads. -/
theorem tokenizeStream_split_opening :
    (∀ p ∈ [['a', '/'], ['*', 'b', '*'], ['/']], p ≠ []) ∧
      [['a', '/'], ['*', 'b', '*'], ['/']].flatten = (String.ofList ['a', '/', '*', 'b', '*', '/']).toList ∧
      tokenizeStream [['a', '/'], ['*', 'b', '*'], ['/']] =
        tokenizeStream [(String.ofList ['a', '/', '*', 'b', '*', '/']).toList] :=
  ⟨by decide, by simp, tokenizeStream_eq_single _ _ (by decide) (by simp)⟩

end Weave.Token

namespace Weave

theorem textPieces_ne_nil (k : Nat) (cs : List Char) : ∀ p ∈ textPieces k cs, p ≠ [] := by
  fun_induction textPieces k cs with
  | case1 => simp
  | case2 hk c cs ih =>
    intro p hp
    rcases List.mem_cons.1 hp with rfl | hp
    · obtain ⟨k, rfl⟩ : ∃ j, k = j + 1 := ⟨k - 1, by omega⟩
      simp
    · exact ih p hp
  | case3 => simp

theorem flatten_textPieces {k : Nat} (hk : 0 < k) (cs : List Char) :
    (textPieces k cs).flatten = cs := by
  fun_induction textPieces k cs with
  | case1 => rfl
  | case2 _ c cs ih => simp [ih]
  | case3 _ hNot => exact absurd hk hNot

theorem tokenizeStream_textPieces (s : String) {k : Nat} (hk : 0 < k) :
    Token.tokenizeStream (textPieces k s.toList) = Token.lex s :=
  Token.tokenizeStream_eq_lex s _ (textPieces_ne_nil k s.toList) (flatten_textPieces hk s.toList)

end Weave
