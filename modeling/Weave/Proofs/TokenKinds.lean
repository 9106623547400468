import Weave.Proofs.Lexing
import Weave.Proofs.WalkInvariant

/-! # The kind of a token, read back from its text

The lexer records with each token the rule that made it, while the walk over the tokens
asks a token's kind of its text alone (`TokenKind.ofText`). The two agree on every token of
every text that lexes: each rule opens its tokens with characters that no other rule's
tokens start with. So a word never starts like a comment, a string or a character literal,
and is never one bracket alone (`WordText`).
-/

namespace Weave.Token

open Weave.Text

set_option autoImplicit false

/-- The characters of a word token: no line feed alone, no opening of a comment, string or
character literal, and no bracket alone. -/
structure WordText (cs : List Char) : Prop where
  notNewline : cs ≠ ['\n']
  notLineComment : ¬ ['/', '/'] <+: cs
  notBlockComment : ¬ ['/', '*'] <+: cs
  notString : cs.head? ≠ some '"'
  notVerbatim : ¬ ['@', '"'] <+: cs
  notChar : cs.head? ≠ some '\''
  notBracket : ∀ c, cs = [c] → isBracket c = false

theorem wordText_of_ofChars {cs : List Char} (h : TokenKind.ofChars cs = .word) : WordText cs := by
  match cs with
  | [] => exact ⟨by simp, by simp, by simp, by simp, by simp, by simp, by simp⟩
  | [c] =>
    simp only [TokenKind.ofChars, beq_iff_eq] at h
    have hNewline : c ≠ '\n' := fun hc => by simp [hc] at h
    have hString : c ≠ '"' := fun hc => by simp [hc] at h
    have hChar : c ≠ '\'' := fun hc => by simp [hc] at h
    have hBracket : isBracket c = false := by
      cases hb : isBracket c
      · rfl
      · simp [hNewline, hString, hChar, hb] at h
    refine ⟨by simpa using hNewline, by simp, by simp, by simpa using hString, by simp,
      by simpa using hChar, ?_⟩
    rintro d ⟨⟩
    exact hBracket
  | c :: d :: r =>
    simp only [TokenKind.ofChars, Bool.and_eq_true, beq_iff_eq] at h
    have hLine : ¬ (c = '/' ∧ d = '/') := fun hc => by simp [hc] at h
    have hBlock : ¬ (c = '/' ∧ d = '*') := fun hc => by simp [hc] at h
    have hString : c ≠ '"' := fun hc => by simp [hc] at h
    have hVerbatim : ¬ (c = '@' ∧ d = '"') := fun hc => by simp [hc] at h
    have hChar : c ≠ '\'' := fun hc => by simp [hc] at h
    refine ⟨by simp, ?_, ?_, by simpa using hString, ?_, by simpa using hChar, by simp⟩
    · simpa [List.cons_prefix_cons, eq_comm] using hLine
    · simpa [List.cons_prefix_cons, eq_comm] using hBlock
    · simpa [List.cons_prefix_cons, eq_comm] using hVerbatim

/-! ## The kind of each rule's tokens -/

theorem ofChars_quote (cs : List Char) : TokenKind.ofChars ('"' :: cs) = .string := by
  cases cs <;> rfl

theorem ofChars_apostrophe (cs : List Char) : TokenKind.ofChars ('\'' :: cs) = .char := by
  cases cs <;> rfl

theorem ofChars_bracket {c : Char} (h : isBracket c = true) : TokenKind.ofChars [c] = .punctuation := by
  simp only [isBracket, Bool.or_eq_true, beq_iff_eq] at h
  rcases h with ((((((rfl | rfl) | rfl) | rfl) | rfl) | rfl) | rfl) | rfl <;> rfl

theorem ofChars_of_wordRun {c : Char} {w rest : List Char} (h : WordRun (c :: w) rest) :
    TokenKind.ofChars (c :: w) = .word := by
  obtain ⟨⟨hBlank, hString, hChar, hBracket, hAt, hSlash⟩, -⟩ := h
  have hNewline : c ≠ '\n' := fun hc => by simp [hc, isBlank] at hBlank
  cases w with
  | nil => simp [TokenKind.ofChars, hNewline, hString, hChar, hBracket]
  | cons d w =>
    simp only [List.cons_append, List.head?_cons, ne_eq, Option.some.injEq] at hAt hSlash
    by_cases hc : c = '/'
    · simp [TokenKind.ofChars, hc, (hSlash hc).1, (hSlash hc).2]
    · have hVerbatim : ¬ (c = '@' ∧ d = '"') := fun hcd => hAt hcd.1 hcd.2
      simp [TokenKind.ofChars, hc, hString, hChar, hVerbatim]

theorem commentText_toList (body : List Char) :
    ∃ rest, (commentText ('/' :: '/' :: body)).toList = '/' :: '/' :: rest := by
  simp only [commentText, String.toList_ofList, List.rdropWhile]
  rw [show ('/' :: '/' :: body).reverse = body.reverse ++ ['/', '/'] by simp, List.dropWhile_append]
  split
  · exact ⟨[], by decide⟩
  · exact ⟨((body.reverse.dropWhile (· == '\r')).reverse), by simp⟩

theorem ofText_commentText (body : List Char) :
    TokenKind.ofText (commentText ('/' :: '/' :: body)) = .lineComment := by
  obtain ⟨rest, hRest⟩ := commentText_toList body
  simp [TokenKind.ofText, hRest, TokenKind.ofChars]

/-! ## Every token of a decomposition -/

theorem Lexes.ofText_eq_kind {cs : List Char} {T : List Token} (h : Lexes cs T) :
    ∀ t ∈ T, TokenKind.ofText t.text = t.kind := by
  have hNewline : TokenKind.ofText newline.text = newline.kind := by decide
  induction h with
  | nil => simp
  | lineFeed _ ih => exact List.forall_mem_cons.2 ⟨hNewline, ih⟩
  | blank _ _ _ ih => exact ih
  | string _ _ ih =>
    exact List.forall_mem_cons.2 ⟨by simp [TokenKind.ofText, ofChars_quote], ih⟩
  | verbatim _ _ ih =>
    exact List.forall_mem_cons.2 ⟨by simp [TokenKind.ofText, TokenKind.ofChars], ih⟩
  | char _ _ ih =>
    exact List.forall_mem_cons.2 ⟨by simp [TokenKind.ofText, ofChars_apostrophe], ih⟩
  | blockComment _ _ ih =>
    exact List.forall_mem_cons.2 ⟨by simp [TokenKind.ofText, TokenKind.ofChars], ih⟩
  | lineComment _ _ ih =>
    exact List.forall_mem_cons.2 ⟨ofText_commentText _, List.forall_mem_cons.2 ⟨hNewline, ih⟩⟩
  | lastLineComment _ =>
    exact List.forall_mem_cons.2 ⟨ofText_commentText _, by simpa using hNewline⟩
  | bracket hBracket _ ih =>
    exact List.forall_mem_cons.2 ⟨by simpa [TokenKind.ofText] using ofChars_bracket hBracket, ih⟩
  | word hRun _ ih =>
    exact List.forall_mem_cons.2 ⟨by simpa [TokenKind.ofText] using ofChars_of_wordRun hRun, ih⟩

/-- Every token of a text that lexes reads back, from its text alone, as the kind of the
rule that made it; in particular a word starts with no opening of a comment, string or
character literal, and is no bracket alone. -/
theorem lex_token_kinds {s : String} {T : List Token} (h : lex s = .ok T) :
    ∀ t ∈ T, TokenKind.ofText t.text = t.kind ∧ (t.kind = .word → WordText t.text.toList) := by
  intro t ht
  have hKind := (lexes_of_lex h).ofText_eq_kind t ht
  refine ⟨hKind, fun hWord => wordText_of_ofChars ?_⟩
  rw [← hWord, ← hKind]
  rfl

/-- A text with a word holding slashes and an at sign, a line comment that opens like a
block comment, a verbatim string, an escaped quote in a character literal, an empty block
comment and brackets. -/
theorem lex_token_kinds_mixed :
    lex "a/b@ //*c\n@\"x\" '\\'' /**/<T>" = .ok [⟨.word, "a/b@"⟩, ⟨.lineComment, "//*c"⟩, newline,
      ⟨.string, "@\"x\""⟩, ⟨.char, "'\\''"⟩, ⟨.blockComment, "/**/"⟩, ⟨.punctuation, "<"⟩,
      ⟨.word, "T"⟩, ⟨.punctuation, ">"⟩] ∧
    ∀ t ∈ [⟨.word, "a/b@"⟩, ⟨.lineComment, "//*c"⟩, newline, ⟨.string, "@\"x\""⟩,
        ⟨.char, "'\\''"⟩, ⟨.blockComment, "/**/"⟩, ⟨.punctuation, "<"⟩, ⟨.word, "T"⟩,
        ⟨.punctuation, ">"⟩],
      TokenKind.ofText t.text = t.kind ∧ (t.kind = .word → WordText t.text.toList) :=
  have hT : lex "a/b@ //*c\n@\"x\" '\\'' /**/<T>" = .ok [⟨.word, "a/b@"⟩, ⟨.lineComment, "//*c"⟩,
      newline, ⟨.string, "@\"x\""⟩, ⟨.char, "'\\''"⟩, ⟨.blockComment, "/**/"⟩,
      ⟨.punctuation, "<"⟩, ⟨.word, "T"⟩, ⟨.punctuation, ">"⟩] :=
    eq_ok_of_toOption (by decide +kernel)
  ⟨hT, lex_token_kinds hT⟩

end Weave.Token
