import Weave.Proofs.Lexing
import Weave.Proofs.ChunkedReading

/-! # Literals left open

Lexing fails only on a literal it cannot close: a string (opened by `"` or `@"`) or a
character literal whose rest holds no closing quote after an even run of backslashes, or a
block comment whose rest holds no `*/`. Which literal that is, is read off the text by the
lexical rules: the text is cut into whole lexemes (`Lexeme`), one after another, up to the
opening of a literal that the rest of the text does not close (`LeavesOpen`). The fault
names the literal's opening, the line of its first character and no file.
-/

namespace Weave.Token

open Weave.Text

set_option autoImplicit false

def Unclosed (close : Char) (rest : List Char) : Prop :=
  ∀ pre post, rest = pre ++ close :: post → ¬ Even (backslashRun pre)

/-- `x` is one whole lexeme at the front of the text `x ++ rest`, one constructor for each
rule of the lexer that can be followed by more text. -/
inductive Lexeme : List Char → List Char → Prop
  | lineFeed {rest} : Lexeme ['\n'] rest
  | blank {c rest} : isBlank c = true → c ≠ '\n' → Lexeme [c] rest
  | string {body rest} : QuotedBody '"' body → Lexeme ('"' :: (body ++ ['"'])) rest
  | verbatim {body rest} : QuotedBody '"' body → Lexeme ('@' :: '"' :: (body ++ ['"'])) rest
  | char {body rest} : QuotedBody '\'' body → Lexeme ('\'' :: (body ++ ['\''])) rest
  | blockComment {body rest} : ¬ ['*', '/'] <:+: body →
      Lexeme ('/' :: '*' :: (body ++ ['*', '/'])) rest
  | lineComment {body rest} : '\n' ∉ body → Lexeme ('/' :: '/' :: (body ++ ['\n'])) rest
  | bracket {c rest} : isBracket c = true → Lexeme [c] rest
  | word {c w rest} : WordRun (c :: w) rest → Lexeme (c :: w) rest

/-- The text `cs` is cut into the whole lexemes of `pre` and then the opening `o` of a
literal that the rest of the text does not close. -/
inductive LeavesOpen : List Char → List Char → String → Prop
  | string {body} : Unclosed '"' body → LeavesOpen ('"' :: body) [] "\""
  | verbatim {body} : Unclosed '"' body → LeavesOpen ('@' :: '"' :: body) [] "@\""
  | char {body} : Unclosed '\'' body → LeavesOpen ('\'' :: body) [] "'"
  | blockComment {body} : ¬ ['*', '/'] <:+: body → LeavesOpen ('/' :: '*' :: body) [] "/*"
  | after {x rest pre o} : Lexeme x rest → LeavesOpen rest pre o → LeavesOpen (x ++ rest) (x ++ pre) o

/-- The fault that lexing the text `cs` stops with: the literal its decomposition leaves
open after the text `pre`, named by its opening, the line of its first character and no
file. -/
def OpenLiteralFault (cs : List Char) (e : Fault) : Prop :=
  ∃ pre o body, cs = pre ++ o.toList ++ body ∧ LeavesOpen cs pre o ∧
    e = .unterminatedLiteral o (pre.count '\n' + 1) ""

/-! ## Readers that meet the end of the text -/

theorem readQuoted_eq_none_iff_after {close : Char} {escaped : Bool} {pre cs : List Char}
    (hEscaped : escaped = true ↔ ¬ Even (backslashRun pre)) :
    readQuoted close escaped cs = none ↔
      ∀ mid post, cs = mid ++ close :: post → ¬ Even (backslashRun (pre ++ mid)) := by
  induction cs generalizing escaped pre with
  | nil => simp [readQuoted]
  | cons c cs ih =>
    by_cases hStop : c = close ∧ Even (backslashRun pre)
    · obtain ⟨rfl, hEven⟩ := hStop
      have hFlag : escaped = false := by simpa [hEven] using hEscaped
      simp only [readQuoted, beq_self_eq_true, hFlag, Bool.not_false, Bool.and_self, ↓reduceIte,
        reduceCtorEq, false_iff, not_forall]
      exact ⟨[], cs, rfl, by simpa using hEven⟩
    · have hGo : (c == close && !escaped) = false := by
        by_cases hc : c = close
        · subst hc
          simpa [hEscaped] using hStop
        · simp [hc]
      have hNext : (c == '\\' && !escaped) = true ↔ ¬ Even (backslashRun (pre ++ [c])) := by
        rw [backslashRun_append_singleton]
        by_cases hc : c = '\\'
        · simp [hc, Nat.even_add_one, ← hEscaped]
        · simp [hc]
      have hUnfold : readQuoted close escaped (c :: cs) =
          (readQuoted close (c == '\\' && !escaped) cs).map fun p => (c :: p.1, p.2) := by
        simp [readQuoted, hGo]
      rw [hUnfold, Option.map_eq_none_iff, ih hNext]
      constructor
      · intro hRest mid post h
        cases mid with
        | nil =>
          obtain ⟨rfl, -⟩ := List.cons.inj h
          simpa using hStop
        | cons d mid =>
          obtain ⟨rfl, hTail⟩ := List.cons.inj h
          simpa using hRest mid post hTail
      · intro hAll mid post h
        simpa using hAll (c :: mid) post (by simp [h])

theorem readQuoted_eq_none_iff {close : Char} {cs : List Char} :
    readQuoted close false cs = none ↔ Unclosed close cs := by
  rw [@readQuoted_eq_none_iff_after close false [] cs (by simp [backslashRun])]
  rfl

theorem readBlock_eq_none_iff {cs : List Char} : readBlock cs = none ↔ ¬ ['*', '/'] <:+: cs := by
  fun_induction readBlock cs with
  | case1 => simp
  | case2 t => simpa using (List.prefix_append ['*', '/'] t).isInfix
  | case3 c cs hNot ih =>
    rw [Option.map_eq_none_iff, ih, List.infix_cons_iff]
    have hPrefix : ¬ ['*', '/'] <+: c :: cs := by
      rintro ⟨t, ht⟩
      exact hNot t (List.cons.inj ht).1.symm (List.cons.inj ht).2.symm
    simp [hPrefix]

/-! ## Lexing a lexeme -/

theorem count_lineFeed_of_wordRun {w rest : List Char} (h : WordRun w rest) : w.count '\n' = 0 := by
  induction w with
  | nil => rfl
  | cons c w ih =>
    obtain ⟨⟨hBlank, -⟩, hRun⟩ := h
    have hc : c ≠ '\n' := by
      rintro rfl
      exact absurd hBlank (by decide)
    simp [hc, ih hRun]

theorem Lexeme.lexFrom_eq {x rest : List Char} (h : Lexeme x rest) (acc : Array Token)
    (line : Nat) : ∃ acc', lexFrom acc line (x ++ rest) = lexFrom acc' (line + x.count '\n') rest := by
  cases h with
  | lineFeed =>
    rw [List.singleton_append, lexFrom_lineFeed (read_eq_lineFeed_iff.2 rfl)]
    exact ⟨_, rfl⟩
  | @blank c _ hBlank hLineFeed =>
    have hCount : [c].count '\n' = 0 := by simp [hLineFeed]
    rw [List.singleton_append, lexFrom_blank (read_eq_blank_iff.2 ⟨hBlank, hLineFeed⟩), hCount]
    exact ⟨_, rfl⟩
  | @string body _ hBody =>
    have hr : readQuoted '"' false (body ++ '"' :: rest) = some (body ++ ['"'], rest) :=
      readQuoted_eq_some_iff.2 ⟨body, hBody, rfl, rfl⟩
    have hCount : ('"' :: (body ++ ['"'])).count '\n' = lineFeeds (body ++ ['"']) := by
      simp [lineFeeds]
    rw [show '"' :: (body ++ ['"']) ++ rest = '"' :: (body ++ '"' :: rest) by simp,
      lexFrom_string (read_eq_string_iff.2 rfl) hr, hCount]
    exact ⟨_, rfl⟩
  | @verbatim body _ hBody =>
    have hr : readQuoted '"' false (body ++ '"' :: rest) = some (body ++ ['"'], rest) :=
      readQuoted_eq_some_iff.2 ⟨body, hBody, rfl, rfl⟩
    have hRead : Opening.read '@' ('"' :: (body ++ '"' :: rest)) = .verbatim :=
      read_eq_verbatim_iff.2 ⟨rfl, rfl⟩
    have hCount : ('@' :: '"' :: (body ++ ['"'])).count '\n' = lineFeeds (body ++ ['"']) := by
      simp [lineFeeds]
    rw [show '@' :: '"' :: (body ++ ['"']) ++ rest = '@' :: '"' :: (body ++ '"' :: rest) by simp,
      lexFrom_verbatim hRead hr, hCount]
    exact ⟨_, rfl⟩
  | @char body _ hBody =>
    have hr : readQuoted '\'' false (body ++ '\'' :: rest) = some (body ++ ['\''], rest) :=
      readQuoted_eq_some_iff.2 ⟨body, hBody, rfl, rfl⟩
    have hCount : ('\'' :: (body ++ ['\''])).count '\n' = lineFeeds (body ++ ['\'']) := by
      simp [lineFeeds]
    rw [show '\'' :: (body ++ ['\'']) ++ rest = '\'' :: (body ++ '\'' :: rest) by simp,
      lexFrom_char (read_eq_char_iff.2 rfl) hr, hCount]
    exact ⟨_, rfl⟩
  | @blockComment body _ hNone =>
    have hr : readBlock (body ++ '*' :: '/' :: rest) = some (body ++ ['*', '/'], rest) :=
      readBlock_eq_some_iff.2 ⟨body, hNone, rfl, rfl⟩
    have hRead : Opening.read '/' ('*' :: (body ++ '*' :: '/' :: rest)) = .blockComment :=
      read_eq_blockComment_iff.2 ⟨rfl, rfl⟩
    have hCount : ('/' :: '*' :: (body ++ ['*', '/'])).count '\n' = lineFeeds (body ++ ['*', '/']) := by
      simp [lineFeeds]
    rw [show '/' :: '*' :: (body ++ ['*', '/']) ++ rest = '/' :: '*' :: (body ++ '*' :: '/' :: rest) by simp,
      lexFrom_blockComment hRead hr, hCount]
    exact ⟨_, rfl⟩
  | @lineComment body _ hBody =>
    have hNone : '\n' ∉ '/' :: body := by simpa using hBody
    have hSplit : splitLine ('/' :: (body ++ '\n' :: rest)) = ('/' :: body, rest) :=
      splitLine_append hNone
    have hCount : ('/' :: '/' :: (body ++ ['\n'])).count '\n' = 1 := by
      simp [List.count_eq_zero_of_not_mem hBody]
    rw [show '/' :: '/' :: (body ++ ['\n']) ++ rest = '/' :: '/' :: (body ++ '\n' :: rest) by simp,
      lexFrom_lineComment (read_eq_lineComment_iff.2 ⟨rfl, rfl⟩), hSplit, hCount]
    exact ⟨_, rfl⟩
  | @bracket c _ hBracket =>
    have hc : c ≠ '\n' := by
      rintro rfl
      exact absurd hBracket (by decide)
    have hCount : [c].count '\n' = 0 := by simp [hc]
    rw [List.singleton_append, lexFrom_bracket (read_eq_bracket_iff.2 hBracket), hCount]
    exact ⟨_, rfl⟩
  | @word c w _ hRun =>
    rw [List.cons_append, lexFrom_wordChar (read_eq_wordChar_iff.2 hRun.1), ← List.cons_append,
      spanWord_of_wordRun hRun, count_lineFeed_of_wordRun hRun]
    exact ⟨_, rfl⟩

/-! ## Lexing a text that leaves a literal open -/

theorem LeavesOpen.ne_nil {cs pre : List Char} {o : String} (h : LeavesOpen cs pre o) : cs ≠ [] := by
  induction h with
  | string _ | verbatim _ | char _ | blockComment _ => simp
  | after _ _ ih => exact fun hNil => ih (List.append_eq_nil_iff.1 hNil).2

theorem LeavesOpen.after_eq {x rest cs pre : List Char} {o : String} (hx : Lexeme x rest)
    (h : LeavesOpen rest pre o) (hcs : cs = x ++ rest) : LeavesOpen cs (x ++ pre) o :=
  hcs ▸ LeavesOpen.after hx h

theorem lexFrom_of_leavesOpen {cs pre : List Char} {o : String} (h : LeavesOpen cs pre o)
    (acc : Array Token) (line : Nat) :
    lexFrom acc line cs = .error (.unterminatedLiteral o (line + pre.count '\n') "") := by
  induction h generalizing acc line with
  | string hBody =>
    exact lexFrom_string_none (read_eq_string_iff.2 rfl) (readQuoted_eq_none_iff.2 hBody)
  | @verbatim body hBody =>
    have hRead : Opening.read '@' ('"' :: body) = .verbatim := read_eq_verbatim_iff.2 ⟨rfl, rfl⟩
    exact lexFrom_verbatim_none hRead (readQuoted_eq_none_iff.2 hBody)
  | char hBody =>
    exact lexFrom_char_none (read_eq_char_iff.2 rfl) (readQuoted_eq_none_iff.2 hBody)
  | @blockComment body hNone =>
    have hRead : Opening.read '/' ('*' :: body) = .blockComment := read_eq_blockComment_iff.2 ⟨rfl, rfl⟩
    exact lexFrom_blockComment_none hRead (readBlock_eq_none_iff.2 hNone)
  | @after x rest pre o hx _ ih =>
    obtain ⟨acc', hStep⟩ := hx.lexFrom_eq acc line
    rw [hStep, ih, List.count_append, Nat.add_assoc]

theorem leavesOpen_of_lexFrom {acc : Array Token} {line : Nat} {cs : List Char} {e : Fault} :
    lexFrom acc line cs = .error e →
      ∃ pre o, LeavesOpen cs pre o ∧ e = .unterminatedLiteral o (line + pre.count '\n') "" := by
  fun_induction lexFrom acc line cs with
  | case1 => simp
  | case2 acc line c cs hRead ih =>
    intro h
    obtain ⟨pre, o, hLeaves, rfl⟩ := ih h
    obtain rfl := read_eq_lineFeed_iff.1 hRead
    refine ⟨_, o, LeavesOpen.after_eq Lexeme.lineFeed hLeaves rfl, ?_⟩
    simp [Nat.add_assoc, Nat.add_comm 1]
  | case3 acc line c cs hRead ih =>
    intro h
    obtain ⟨pre, o, hLeaves, rfl⟩ := ih h
    obtain ⟨hBlank, hLineFeed⟩ := read_eq_blank_iff.1 hRead
    refine ⟨_, o, LeavesOpen.after_eq (Lexeme.blank hBlank hLineFeed) hLeaves rfl, ?_⟩
    simp [hLineFeed]
  | case4 acc line c cs hRead hr =>
    rintro ⟨⟩
    obtain rfl := read_eq_string_iff.1 hRead
    exact ⟨[], _, .string (readQuoted_eq_none_iff.1 hr), rfl⟩
  | case5 acc line c cs hRead b r hr ih =>
    intro h
    obtain ⟨pre, o, hLeaves, rfl⟩ := ih h
    obtain rfl := read_eq_string_iff.1 hRead
    obtain ⟨body, hBody, rfl, rfl⟩ := readQuoted_eq_some_iff.1 hr
    refine ⟨_, o, LeavesOpen.after_eq (Lexeme.string hBody) hLeaves (by simp), ?_⟩
    simp [lineFeeds, Nat.add_assoc]
  | case6 acc line c cs hRead hr =>
    rintro ⟨⟩
    obtain ⟨rfl, hHead⟩ := read_eq_verbatim_iff.1 hRead
    obtain ⟨cs, rfl⟩ := List.head?_eq_some_iff.1 hHead
    exact ⟨[], _, .verbatim (readQuoted_eq_none_iff.1 hr), rfl⟩
  | case7 acc line c cs hRead b r hr ih =>
    intro h
    obtain ⟨pre, o, hLeaves, rfl⟩ := ih h
    obtain ⟨rfl, hHead⟩ := read_eq_verbatim_iff.1 hRead
    obtain ⟨cs, rfl⟩ := List.head?_eq_some_iff.1 hHead
    obtain ⟨body, hBody, rfl, rfl⟩ := readQuoted_eq_some_iff.1 hr
    refine ⟨_, o, LeavesOpen.after_eq (Lexeme.verbatim hBody) hLeaves (by simp), ?_⟩
    simp [lineFeeds, Nat.add_assoc]
  | case8 acc line c cs hRead hr =>
    rintro ⟨⟩
    obtain rfl := read_eq_char_iff.1 hRead
    exact ⟨[], _, .char (readQuoted_eq_none_iff.1 hr), rfl⟩
  | case9 acc line c cs hRead b r hr ih =>
    intro h
    obtain ⟨pre, o, hLeaves, rfl⟩ := ih h
    obtain rfl := read_eq_char_iff.1 hRead
    obtain ⟨body, hBody, rfl, rfl⟩ := readQuoted_eq_some_iff.1 hr
    refine ⟨_, o, LeavesOpen.after_eq (Lexeme.char hBody) hLeaves (by simp), ?_⟩
    simp [lineFeeds, Nat.add_assoc]
  | case10 acc line c cs hRead hr =>
    rintro ⟨⟩
    obtain ⟨rfl, hHead⟩ := read_eq_blockComment_iff.1 hRead
    obtain ⟨cs, rfl⟩ := List.head?_eq_some_iff.1 hHead
    exact ⟨[], _, .blockComment (readBlock_eq_none_iff.1 hr), rfl⟩
  | case11 acc line c cs hRead b r hr ih =>
    intro h
    obtain ⟨pre, o, hLeaves, rfl⟩ := ih h
    obtain ⟨rfl, hHead⟩ := read_eq_blockComment_iff.1 hRead
    obtain ⟨cs, rfl⟩ := List.head?_eq_some_iff.1 hHead
    obtain ⟨body, hNone, rfl, rfl⟩ := readBlock_eq_some_iff.1 hr
    refine ⟨_, o, LeavesOpen.after_eq (Lexeme.blockComment hNone) hLeaves (by simp), ?_⟩
    simp [lineFeeds, Nat.add_assoc]
  | case12 acc line c cs hRead body rest =>
    rename_i ih
    intro h
    obtain ⟨pre, o, hLeaves, rfl⟩ := ih h
    obtain ⟨rfl, hHead⟩ := read_eq_lineComment_iff.1 hRead
    obtain ⟨cs, rfl⟩ := List.head?_eq_some_iff.1 hHead
    have hSplit : (body, rest) = splitLine ('/' :: cs) := rfl
    clear_value body rest
    rcases lineFeed_cases cs with hNone | ⟨pre', post, hPre, rfl⟩
    · rw [splitLine_of_not_mem (by simpa using hNone)] at hSplit
      obtain ⟨-, rfl⟩ := Prod.mk.inj hSplit
      exact absurd rfl hLeaves.ne_nil
    · rw [show '/' :: (pre' ++ '\n' :: post) = ('/' :: pre') ++ '\n' :: post from rfl,
        splitLine_append (by simpa using hPre)] at hSplit
      obtain ⟨rfl, rfl⟩ := Prod.mk.inj hSplit
      refine ⟨_, o, LeavesOpen.after_eq (Lexeme.lineComment hPre) hLeaves (by simp), ?_⟩
      simp [List.count_eq_zero_of_not_mem hPre, Nat.add_assoc, Nat.add_comm 1]
  | case13 acc line c cs hRead ih =>
    intro h
    obtain ⟨pre, o, hLeaves, rfl⟩ := ih h
    have hBracket := read_eq_bracket_iff.1 hRead
    have hc : c ≠ '\n' := by
      rintro rfl
      exact absurd hBracket (by decide)
    refine ⟨_, o, LeavesOpen.after_eq (Lexeme.bracket hBracket) hLeaves rfl, ?_⟩
    simp [hc]
  | case14 acc line c cs hRead w =>
    rename_i ih
    intro h
    obtain ⟨pre, o, hLeaves, rfl⟩ := ih h
    have hSpan : spanWord (c :: cs) = (c :: (spanWord cs).1, (spanWord cs).2) := by
      simp [spanWord, hRead]
    have hRun := spanWord_wordRun (c :: cs)
    have hw : w = spanWord (c :: cs) := rfl
    clear_value w
    subst hw
    rw [hSpan] at hRun hLeaves
    dsimp only at hRun hLeaves
    have hText : c :: cs = (c :: (spanWord cs).1) ++ (spanWord cs).2 := by
      rw [List.cons_append, spanWord_append]
    refine ⟨_, o, LeavesOpen.after_eq (Lexeme.word hRun) hLeaves hText, ?_⟩
    rw [List.count_append, count_lineFeed_of_wordRun hRun, Nat.zero_add]

theorem LeavesOpen.eq_append {cs pre : List Char} {o : String} (h : LeavesOpen cs pre o) :
    ∃ body, cs = pre ++ o.toList ++ body := by
  induction h with
  | @string body _ | @char body _ => exact ⟨body, rfl⟩
  | @verbatim body _ | @blockComment body _ => exact ⟨body, rfl⟩
  | @after x rest pre o _ _ ih =>
    obtain ⟨body, rfl⟩ := ih
    exact ⟨body, by simp⟩

theorem lex_eq_error_iff (s : String) (e : Fault) : lex s = .error e ↔ OpenLiteralFault s.toList e := by
  constructor
  · intro h
    cases hLex : lexFrom #[] 1 s.toList with
    | ok out => simp [lex, hLex, Except.map] at h
    | error e' =>
      have he : e' = e := by simpa [lex, hLex, Except.map] using h
      subst he
      obtain ⟨pre, o, hLeaves, rfl⟩ := leavesOpen_of_lexFrom hLex
      obtain ⟨body, hText⟩ := hLeaves.eq_append
      exact ⟨pre, o, body, hText, hLeaves, by rw [Nat.add_comm]⟩
  · rintro ⟨pre, o, body, -, hLeaves, rfl⟩
    simp [lex, lexFrom_of_leavesOpen hLeaves, Except.map, Nat.add_comm]

/-- Lexing a text fails exactly when its decomposition leaves a literal open, with that
literal's opening, the line of its first character and no file; and a stream that reads
the text in pieces of any size fails in the same way. -/
theorem lex_unterminated_iff (s : String) (e : Fault) :
    (lex s = .error e ↔ OpenLiteralFault s.toList e) ∧
      ∀ k, tokenizeStream (textPieces (k + 1) s.toList) = .error e ↔ OpenLiteralFault s.toList e :=
  ⟨lex_eq_error_iff s e, fun k => by rw [tokenizeStream_textPieces s (Nat.succ_pos k), lex_eq_error_iff]⟩

end Weave.Token
