import Mathlib.Algebra.Group.Nat.Even
import Mathlib.Data.List.DropRight
import Weave.Proofs.Lines
import Weave.Source.Lexer

/-! # The lexical decomposition of a text -/

namespace Weave.Token

open Weave.Text

set_option autoImplicit false

def backslashRun (pre : List Char) : Nat :=
  (pre.reverse.takeWhile (· == '\\')).length

theorem backslashRun_append_singleton (pre : List Char) (c : Char) :
    backslashRun (pre ++ [c]) = if c = '\\' then backslashRun pre + 1 else 0 := by
  by_cases h : c = '\\' <;> simp [backslashRun, h]

def QuotedBody (close : Char) (body : List Char) : Prop :=
  Even (backslashRun body) ∧ ∀ pre post, body = pre ++ close :: post → ¬ Even (backslashRun pre)

/-- `c` continues a word when `after` follows it: it is no blank, quote or bracket, and it
opens neither a verbatim string nor a comment. -/
def Plain (c : Char) (after : List Char) : Prop :=
  isBlank c = false ∧ c ≠ '"' ∧ c ≠ '\'' ∧ isBracket c = false ∧
    (c = '@' → after.head? ≠ some '"') ∧ (c = '/' → after.head? ≠ some '*' ∧ after.head? ≠ some '/')

/-- `w` is a run of word characters that `rest` cannot extend. -/
def WordRun : List Char → List Char → Prop
  | [], rest => ∀ c after, rest = c :: after → ¬ Plain c after
  | c :: w, rest => Plain c (w ++ rest) ∧ WordRun w rest

def commentText (cs : List Char) : String :=
  String.ofList (cs.rdropWhile (· == '\r'))

/-- The decomposition of a text into tokens, one constructor for each rule. -/
inductive Lexes : List Char → List Token → Prop
  | nil : Lexes [] []
  | lineFeed {cs T} : Lexes cs T → Lexes ('\n' :: cs) (newline :: T)
  | blank {c cs T} : isBlank c = true → c ≠ '\n' → Lexes cs T → Lexes (c :: cs) T
  | string {body rest T} : QuotedBody '"' body → Lexes rest T →
      Lexes ('"' :: (body ++ '"' :: rest)) (⟨.string, String.ofList ('"' :: (body ++ ['"']))⟩ :: T)
  | verbatim {body rest T} : QuotedBody '"' body → Lexes rest T →
      Lexes ('@' :: '"' :: (body ++ '"' :: rest))
        (⟨.string, String.ofList ('@' :: '"' :: (body ++ ['"']))⟩ :: T)
  | char {body rest T} : QuotedBody '\'' body → Lexes rest T →
      Lexes ('\'' :: (body ++ '\'' :: rest))
        (⟨.char, String.ofList ('\'' :: (body ++ ['\'']))⟩ :: T)
  | blockComment {body rest T} : ¬ ['*', '/'] <:+: body → Lexes rest T →
      Lexes ('/' :: '*' :: (body ++ '*' :: '/' :: rest))
        (⟨.blockComment, String.ofList ('/' :: '*' :: (body ++ ['*', '/']))⟩ :: T)
  | lineComment {body rest T} : '\n' ∉ body → Lexes rest T →
      Lexes ('/' :: '/' :: (body ++ '\n' :: rest))
        (⟨.lineComment, commentText ('/' :: '/' :: body)⟩ :: newline :: T)
  | lastLineComment {body} : '\n' ∉ body →
      Lexes ('/' :: '/' :: body) [⟨.lineComment, commentText ('/' :: '/' :: body)⟩, newline]
  | bracket {c cs T} : isBracket c = true → Lexes cs T →
      Lexes (c :: cs) (⟨.punctuation, String.singleton c⟩ :: T)
  | word {c w rest T} : WordRun (c :: w) rest → Lexes rest T →
      Lexes (c :: (w ++ rest)) (⟨.word, String.ofList (c :: w)⟩ :: T)

theorem readQuoted_eq_some_iff_after {close : Char} {escaped : Bool} {pre cs b r : List Char}
    (hEscaped : escaped = true ↔ ¬ Even (backslashRun pre)) :
    readQuoted close escaped cs = some (b, r) ↔
      ∃ body, cs = body ++ close :: r ∧ b = body ++ [close] ∧ Even (backslashRun (pre ++ body)) ∧
        ∀ mid post, body = mid ++ close :: post → ¬ Even (backslashRun (pre ++ mid)) := by
  induction cs generalizing escaped pre b with
  | nil => simp [readQuoted]
  | cons c cs ih =>
    by_cases hStop : c = close ∧ Even (backslashRun pre)
    · obtain ⟨rfl, hEven⟩ := hStop
      have hFlag : escaped = false := by simpa [hEven] using hEscaped
      simp only [readQuoted, beq_self_eq_true, hFlag, Bool.not_false, Bool.and_self, ↓reduceIte,
        Option.some.injEq, Prod.mk.injEq]
      constructor
      · rintro ⟨rfl, rfl⟩
        exact ⟨[], rfl, rfl, by simpa using hEven, fun mid post h => by simp at h⟩
      · rintro ⟨body, hcs, rfl, -, hFirst⟩
        cases body with
        | nil => simp_all
        | cons d body =>
          obtain ⟨rfl, -⟩ := List.cons.inj hcs
          exact absurd (by simpa using hEven) (hFirst [] body rfl)
    · have hGo : (c == close && !escaped) = false := by
        by_cases hc : c = close
        · subst hc
          simpa [hEscaped] using hStop
        · simp [hc]
      have hNext : (c == '\\' && !escaped) = true ↔ ¬ Even (backslashRun (pre ++ [c])) := by
        rw [backslashRun_append_singleton]
        by_cases hc : c = '\\'
        · simp [hc, Nat.even_add_one, ← hEscaped]
        · simp [hc]
      have hUnfold : readQuoted close escaped (c :: cs) =
          (readQuoted close (c == '\\' && !escaped) cs).map fun p => (c :: p.1, p.2) := by
        simp [readQuoted, hGo]
      rw [hUnfold]
      constructor
      · intro h
        obtain ⟨⟨b', r'⟩, hRec, hb⟩ := Option.map_eq_some_iff.1 h
        obtain ⟨rfl, rfl⟩ := Prod.mk.inj hb
        obtain ⟨body, hcs, rfl, hEven, hFirst⟩ := (ih hNext).1 hRec
        refine ⟨c :: body, by simp [hcs], rfl, by simpa using hEven, ?_⟩
        intro mid post h
        cases mid with
        | nil =>
          obtain ⟨rfl, -⟩ := List.cons.inj h
          simpa using hStop
        | cons d mid =>
          obtain ⟨rfl, hRest⟩ := List.cons.inj h
          simpa using hFirst mid post hRest
      · rintro ⟨body, hcs, rfl, hEven, hFirst⟩
        cases body with
        | nil =>
          obtain ⟨rfl, -⟩ := List.cons.inj hcs
          exact absurd ⟨rfl, by simpa using hEven⟩ hStop
        | cons d body =>
          obtain ⟨rfl, hRest⟩ := List.cons.inj hcs
          refine Option.map_eq_some_iff.2 ⟨(body ++ [close], r), (ih hNext).2 ?_, rfl⟩
          refine ⟨body, hRest, rfl, by simpa using hEven, ?_⟩
          intro mid post h
          simpa using hFirst (c :: mid) post (by simp [h])

theorem readQuoted_eq_some_iff {close : Char} {cs b r : List Char} :
    readQuoted close false cs = some (b, r) ↔
      ∃ body, QuotedBody close body ∧ cs = body ++ close :: r ∧ b = body ++ [close] := by
  rw [@readQuoted_eq_some_iff_after close false [] cs b r (by simp [backslashRun])]
  simp only [List.nil_append, QuotedBody]
  constructor
  · rintro ⟨body, hcs, hb, hEven, hFirst⟩
    exact ⟨body, ⟨hEven, hFirst⟩, hcs, hb⟩
  · rintro ⟨body, ⟨hEven, hFirst⟩, hcs, hb⟩
    exact ⟨body, hcs, hb, hEven, hFirst⟩

theorem readBlock_eq_some_iff {cs b r : List Char} :
    readBlock cs = some (b, r) ↔
      ∃ body, ¬ ['*', '/'] <:+: body ∧ cs = body ++ '*' :: '/' :: r ∧ b = body ++ ['*', '/'] := by
  fun_induction readBlock cs generalizing b with
  | case1 => simp
  | case2 t =>
    simp only [Option.some.injEq, Prod.mk.injEq]
    constructor
    · rintro ⟨rfl, rfl⟩
      exact ⟨[], by simp, rfl, rfl⟩
    · rintro ⟨body, hNone, hcs, rfl⟩
      cases body with
      | nil => simp_all
      | cons d body =>
        obtain ⟨rfl, hTail⟩ := List.cons.inj hcs
        cases body with
        | nil => simp at hTail
        | cons e body =>
          obtain ⟨rfl, -⟩ := List.cons.inj hTail
          exact absurd (List.prefix_append ['*', '/'] body).isInfix hNone
  | case3 c cs hNot ih =>
    constructor
    · intro h
      obtain ⟨⟨b', r'⟩, hRec, hb⟩ := Option.map_eq_some_iff.1 h
      obtain ⟨rfl, rfl⟩ := Prod.mk.inj hb
      obtain ⟨body, hNone, hcs, rfl⟩ := ih.1 hRec
      refine ⟨c :: body, ?_, by simp [hcs], rfl⟩
      rw [List.infix_cons_iff]
      rintro (hPrefix | hInfix)
      · obtain ⟨rfl, rest, hBody⟩ := List.cons_prefix_cons.1 hPrefix
        exact hNot (rest ++ '*' :: '/' :: r') rfl (by rw [hcs, ← hBody]; rfl)
      · exact hNone hInfix
    · rintro ⟨body, hNone, hcs, rfl⟩
      cases body with
      | nil =>
        obtain ⟨rfl, rfl⟩ := List.cons.inj hcs
        exact (hNot r rfl rfl).elim
      | cons d body =>
        obtain ⟨rfl, hRest⟩ := List.cons.inj hcs
        have hTail : ¬ ['*', '/'] <:+: body := fun h => hNone (h.trans (List.suffix_cons c body).isInfix)
        exact Option.map_eq_some_iff.2 ⟨(body ++ ['*', '/'], r), ih.2 ⟨body, hTail, hRest, rfl⟩, rfl⟩

section Opening

variable {c : Char} {after : List Char}

theorem read_eq_lineFeed_iff : Opening.read c after = .lineFeed ↔ c = '\n' := by
  unfold Opening.read
  split_ifs <;> simp_all

theorem read_eq_blank_iff : Opening.read c after = .blank ↔ isBlank c = true ∧ c ≠ '\n' := by
  unfold Opening.read
  split_ifs <;> simp_all

theorem read_eq_string_iff : Opening.read c after = .string ↔ c = '"' := by
  constructor
  · unfold Opening.read
    split_ifs <;> simp_all
  · rintro rfl
    simp [Opening.read, isBlank]

theorem read_eq_verbatim_iff :
    Opening.read c after = .verbatim ↔ c = '@' ∧ after.head? = some '"' := by
  constructor
  · unfold Opening.read
    split_ifs <;> simp_all
  · rintro ⟨rfl, hHead⟩
    simp [Opening.read, isBlank, hHead]

theorem read_eq_char_iff : Opening.read c after = .char ↔ c = '\'' := by
  constructor
  · unfold Opening.read
    split_ifs <;> simp_all
  · rintro rfl
    simp [Opening.read, isBlank]

theorem read_eq_blockComment_iff :
    Opening.read c after = .blockComment ↔ c = '/' ∧ after.head? = some '*' := by
  constructor
  · unfold Opening.read
    split_ifs <;> simp_all
  · rintro ⟨rfl, hHead⟩
    simp [Opening.read, isBlank, hHead]

theorem read_eq_lineComment_iff :
    Opening.read c after = .lineComment ↔ c = '/' ∧ after.head? = some '/' := by
  constructor
  · unfold Opening.read
    split_ifs <;> simp_all
  · rintro ⟨rfl, hHead⟩
    simp [Opening.read, isBlank, hHead]

theorem read_eq_bracket_iff : Opening.read c after = .bracket ↔ isBracket c = true := by
  constructor
  · unfold Opening.read
    split_ifs <;> simp_all
  · intro h
    simp only [isBracket, Bool.or_eq_true, beq_iff_eq] at h
    rcases h with ((((((rfl | rfl) | rfl) | rfl) | rfl) | rfl) | rfl) | rfl <;>
      simp [Opening.read, isBlank, isBracket]

theorem read_eq_wordChar_iff : Opening.read c after = .wordChar ↔ Plain c after := by
  have hLineFeed : isBlank '\n' = true := by decide
  unfold Opening.read Plain
  split_ifs <;> simp_all

end Opening

theorem spanWord_wordRun (cs : List Char) : WordRun (spanWord cs).1 (spanWord cs).2 := by
  induction cs with
  | nil => simp [spanWord, WordRun]
  | cons c cs ih =>
    by_cases hRead : Opening.read c cs = .wordChar
    · simp only [spanWord, hRead, beq_self_eq_true, ↓reduceIte, WordRun]
      exact ⟨by rw [spanWord_append]; exact read_eq_wordChar_iff.1 hRead, ih⟩
    · simp only [spanWord, beq_iff_eq, hRead, ↓reduceIte, WordRun]
      rintro d after ⟨rfl, rfl⟩
      exact fun hPlain => hRead (read_eq_wordChar_iff.2 hPlain)

theorem spanWord_of_wordRun {w rest : List Char} (h : WordRun w rest) :
    spanWord (w ++ rest) = (w, rest) := by
  induction w with
  | nil =>
    cases rest with
    | nil => rfl
    | cons c after =>
      have hRead : Opening.read c after ≠ .wordChar := fun hRead => h c after rfl (read_eq_wordChar_iff.1 hRead)
      simp [spanWord, hRead]
  | cons c w ih =>
    obtain ⟨hPlain, hRun⟩ := h
    simp [spanWord, read_eq_wordChar_iff.2 hPlain, ih hRun]

section Branches

variable {acc : Array Token} {line : Nat} {c : Char} {cs b r : List Char}

theorem lexFrom_lineFeed (h : Opening.read c cs = .lineFeed) :
    lexFrom acc line (c :: cs) = lexFrom (acc.push newline) (line + 1) cs := by
  rw [lexFrom]
  split <;> simp_all

theorem lexFrom_blank (h : Opening.read c cs = .blank) :
    lexFrom acc line (c :: cs) = lexFrom acc line cs := by
  rw [lexFrom]
  split <;> simp_all

theorem lexFrom_string (h : Opening.read c cs = .string) (hr : readQuoted '"' false cs = some (b, r)) :
    lexFrom acc line (c :: cs) =
      lexFrom (acc.push ⟨.string, String.ofList (c :: b)⟩) (line + lineFeeds b) r := by
  rw [lexFrom]
  split <;> simp_all
  split <;> simp_all

theorem lexFrom_verbatim (h : Opening.read c cs = .verbatim)
    (hr : readQuoted '"' false cs.tail = some (b, r)) :
    lexFrom acc line (c :: cs) =
      lexFrom (acc.push ⟨.string, String.ofList (c :: '"' :: b)⟩) (line + lineFeeds b) r := by
  rw [lexFrom]
  split <;> simp_all
  split <;> simp_all

theorem lexFrom_char (h : Opening.read c cs = .char) (hr : readQuoted '\'' false cs = some (b, r)) :
    lexFrom acc line (c :: cs) =
      lexFrom (acc.push ⟨.char, String.ofList (c :: b)⟩) (line + lineFeeds b) r := by
  rw [lexFrom]
  split <;> simp_all
  split <;> simp_all

theorem lexFrom_blockComment (h : Opening.read c cs = .blockComment)
    (hr : readBlock cs.tail = some (b, r)) :
    lexFrom acc line (c :: cs) =
      lexFrom (acc.push ⟨.blockComment, String.ofList (c :: '*' :: b)⟩) (line + lineFeeds b) r := by
  rw [lexFrom]
  split <;> simp_all
  split <;> simp_all

theorem lexFrom_lineComment (h : Opening.read c cs = .lineComment) :
    lexFrom acc line (c :: cs) =
      lexFrom ((acc.push (lineComment (splitLine cs).1)).push newline) (line + 1) (splitLine cs).2 := by
  rw [lexFrom]
  split <;> simp_all [splitLine]

theorem lexFrom_bracket (h : Opening.read c cs = .bracket) :
    lexFrom acc line (c :: cs) = lexFrom (acc.push ⟨.punctuation, String.singleton c⟩) line cs := by
  rw [lexFrom]
  split <;> simp_all

theorem lexFrom_wordChar (h : Opening.read c cs = .wordChar) :
    lexFrom acc line (c :: cs) =
      lexFrom (acc.push ⟨.word, String.ofList (spanWord (c :: cs)).1⟩) line (spanWord (c :: cs)).2 := by
  rw [lexFrom]
  split <;> simp_all

end Branches

theorem lineComment_eq (body : List Char) :
    lineComment body = ⟨.lineComment, commentText ('/' :: body)⟩ := rfl

theorem lexFrom_of_lexes {cs : List Char} {T : List Token} (h : Lexes cs T) (acc : Array Token)
    (line : Nat) : (lexFrom acc line cs).map Array.toList = .ok (acc.toList ++ T) := by
  induction h generalizing acc line with
  | nil => simp [lexFrom, Except.map]
  | lineFeed _ ih =>
    rw [lexFrom_lineFeed (read_eq_lineFeed_iff.2 rfl), ih]
    simp
  | blank hBlank hLineFeed _ ih =>
    rw [lexFrom_blank (read_eq_blank_iff.2 ⟨hBlank, hLineFeed⟩), ih]
  | string hBody _ ih =>
    rw [lexFrom_string (read_eq_string_iff.2 rfl) (readQuoted_eq_some_iff.2 ⟨_, hBody, rfl, rfl⟩), ih]
    simp
  | verbatim hBody _ ih =>
    rw [lexFrom_verbatim (read_eq_verbatim_iff.2 ⟨rfl, rfl⟩)
      (readQuoted_eq_some_iff.2 ⟨_, hBody, rfl, rfl⟩), ih]
    simp
  | char hBody _ ih =>
    rw [lexFrom_char (read_eq_char_iff.2 rfl) (readQuoted_eq_some_iff.2 ⟨_, hBody, rfl, rfl⟩), ih]
    simp
  | blockComment hNone _ ih =>
    rw [lexFrom_blockComment (read_eq_blockComment_iff.2 ⟨rfl, rfl⟩)
      (readBlock_eq_some_iff.2 ⟨_, hNone, rfl, rfl⟩), ih]
    simp
  | @lineComment body rest T hBody _ ih =>
    have hNone : '\n' ∉ '/' :: body := by simpa using hBody
    have hSplit : splitLine ('/' :: (body ++ '\n' :: rest)) = ('/' :: body, rest) :=
      splitLine_append hNone
    rw [lexFrom_lineComment (read_eq_lineComment_iff.2 ⟨rfl, rfl⟩), hSplit, ih]
    simp [lineComment_eq]
  | @lastLineComment body hBody =>
    have hSplit : splitLine ('/' :: body) = ('/' :: body, []) :=
      splitLine_of_not_mem (by simpa using hBody)
    rw [lexFrom_lineComment (read_eq_lineComment_iff.2 ⟨rfl, rfl⟩), hSplit]
    simp [lexFrom, Except.map, lineComment_eq]
  | bracket hBracket _ ih =>
    rw [lexFrom_bracket (read_eq_bracket_iff.2 hBracket), ih]
    simp
  | @word c w rest T hRun _ ih =>
    have hSpan : spanWord (c :: (w ++ rest)) = (c :: w, rest) := spanWord_of_wordRun hRun
    rw [lexFrom_wordChar (read_eq_wordChar_iff.2 hRun.1), hSpan, ih]
    simp

theorem lexes_of_lexFrom {acc : Array Token} {line : Nat} {cs : List Char} {out : Array Token} :
    lexFrom acc line cs = .ok out → ∃ T, out.toList = acc.toList ++ T ∧ Lexes cs T := by
  fun_induction lexFrom acc line cs generalizing out with
  | case1 acc line =>
    intro h
    cases h
    exact ⟨[], by simp, .nil⟩
  | case2 acc line c cs hRead ih =>
    intro h
    obtain ⟨T, hOut, hT⟩ := ih h
    obtain rfl := read_eq_lineFeed_iff.1 hRead
    exact ⟨newline :: T, by simp [hOut], .lineFeed hT⟩
  | case3 acc line c cs hRead ih =>
    intro h
    obtain ⟨T, hOut, hT⟩ := ih h
    obtain ⟨hBlank, hLineFeed⟩ := read_eq_blank_iff.1 hRead
    exact ⟨T, hOut, .blank hBlank hLineFeed hT⟩
  | case4 | case6 | case8 | case10 => simp
  | case5 acc line c cs hRead b r hr ih =>
    intro h
    obtain ⟨T, hOut, hT⟩ := ih h
    obtain rfl := read_eq_string_iff.1 hRead
    obtain ⟨body, hBody, rfl, rfl⟩ := readQuoted_eq_some_iff.1 hr
    exact ⟨_ :: T, by simp [hOut], .string hBody hT⟩
  | case7 acc line c cs hRead b r hr ih =>
    intro h
    obtain ⟨T, hOut, hT⟩ := ih h
    obtain ⟨rfl, hHead⟩ := read_eq_verbatim_iff.1 hRead
    obtain ⟨cs, rfl⟩ := List.head?_eq_some_iff.1 hHead
    obtain ⟨body, hBody, rfl, rfl⟩ := readQuoted_eq_some_iff.1 hr
    exact ⟨_ :: T, by simp [hOut], .verbatim hBody hT⟩
  | case9 acc line c cs hRead b r hr ih =>
    intro h
    obtain ⟨T, hOut, hT⟩ := ih h
    obtain rfl := read_eq_char_iff.1 hRead
    obtain ⟨body, hBody, rfl, rfl⟩ := readQuoted_eq_some_iff.1 hr
    exact ⟨_ :: T, by simp [hOut], .char hBody hT⟩
  | case11 acc line c cs hRead b r hr ih =>
    intro h
    obtain ⟨T, hOut, hT⟩ := ih h
    obtain ⟨rfl, hHead⟩ := read_eq_blockComment_iff.1 hRead
    obtain ⟨cs, rfl⟩ := List.head?_eq_some_iff.1 hHead
    obtain ⟨body, hNone, rfl, rfl⟩ := readBlock_eq_some_iff.1 hr
    exact ⟨_ :: T, by simp [hOut], .blockComment hNone hT⟩
  | case12 acc line c cs hRead body rest =>
    rename_i ih
    intro h
    obtain ⟨T, hOut, hT⟩ := ih h
    obtain ⟨rfl, hHead⟩ := read_eq_lineComment_iff.1 hRead
    obtain ⟨cs, rfl⟩ := List.head?_eq_some_iff.1 hHead
    have hSplit : (body, rest) = splitLine ('/' :: cs) := rfl
    clear_value body rest
    rcases lineFeed_cases cs with hNone | ⟨pre, post, hPre, rfl⟩
    · rw [splitLine_of_not_mem (by simpa using hNone)] at hSplit
      obtain ⟨rfl, rfl⟩ := Prod.mk.inj hSplit
      cases hT
      exact ⟨_, by simp [hOut, lineComment_eq], .lastLineComment hNone⟩
    · rw [show '/' :: (pre ++ '\n' :: post) = ('/' :: pre) ++ '\n' :: post from rfl,
        splitLine_append (by simpa using hPre)] at hSplit
      obtain ⟨rfl, rfl⟩ := Prod.mk.inj hSplit
      exact ⟨_, by simp [hOut, lineComment_eq], .lineComment hPre hT⟩
  | case13 acc line c cs hRead ih =>
    intro h
    obtain ⟨T, hOut, hT⟩ := ih h
    exact ⟨_ :: T, by simp [hOut], .bracket (read_eq_bracket_iff.1 hRead) hT⟩
  | case14 acc line c cs hRead w =>
    rename_i ih
    intro h
    obtain ⟨T, hOut, hT⟩ := ih h
    have hSpan : spanWord (c :: cs) = (c :: (spanWord cs).1, (spanWord cs).2) := by
      simp [spanWord, hRead]
    have hRun := spanWord_wordRun (c :: cs)
    have hw : w = spanWord (c :: cs) := rfl
    clear_value w
    subst hw
    rw [hSpan] at hRun hOut hT
    refine ⟨⟨.word, String.ofList (c :: (spanWord cs).1)⟩ :: T, by simp [hOut], ?_⟩
    have hWord := Lexes.word hRun hT
    rwa [spanWord_append] at hWord

theorem Lexes.text_ne_empty {cs : List Char} {T : List Token} (h : Lexes cs T) :
    ∀ t ∈ T, t.text ≠ "" := by
  have hNewline : newline.text ≠ "" := by decide
  have hCons : ∀ x l, String.ofList (x :: l) ≠ "" := fun x l =>
    String.ofList_eq_empty_iff.not.2 (List.cons_ne_nil x l)
  have hComment : ∀ body, commentText ('/' :: '/' :: body) ≠ "" := by
    intro body
    simp [commentText, String.ofList_eq_empty_iff, List.rdropWhile_eq_nil_iff]
  induction h with
  | nil => simp
  | lineFeed _ ih => exact List.forall_mem_cons.2 ⟨hNewline, ih⟩
  | blank _ _ _ ih => exact ih
  | lineComment _ _ ih => exact List.forall_mem_cons.2 ⟨hComment _, List.forall_mem_cons.2 ⟨hNewline, ih⟩⟩
  | lastLineComment _ => exact List.forall_mem_cons.2 ⟨hComment _, by simpa using hNewline⟩
  | bracket _ _ ih => exact List.forall_mem_cons.2 ⟨by rw [String.singleton_eq_ofList]; exact hCons _ [], ih⟩
  | string _ _ ih | verbatim _ _ ih | char _ _ ih | blockComment _ _ ih | word _ _ ih =>
    exact List.forall_mem_cons.2 ⟨hCons _ _, ih⟩

theorem lexes_of_lex {s : String} {T : List Token} (h : lex s = .ok T) : Lexes s.toList T := by
  obtain ⟨out, hOut, rfl⟩ : ∃ out, lexFrom #[] 1 s.toList = .ok out ∧ out.toList = T := by
    unfold lex at h
    cases hLex : lexFrom #[] 1 s.toList with
    | error e => simp [hLex, Except.map] at h
    | ok out => exact ⟨out, rfl, by simpa [hLex, Except.map] using h⟩
  obtain ⟨T', hT', hLexes⟩ := lexes_of_lexFrom hOut
  rwa [hT']

/-- Lexing a text gives `T` exactly when `T` is the text's decomposition by the lexical
rules; then no token is empty. -/
theorem lex_eq_ok_iff (s : String) (T : List Token) :
    lex s = .ok T ↔ Lexes s.toList T ∧ ∀ t ∈ T, t.text ≠ "" := by
  constructor
  · intro h
    have hLexes := lexes_of_lex h
    exact ⟨hLexes, hLexes.text_ne_empty⟩
  · rintro ⟨hLexes, -⟩
    simpa [lex] using lexFrom_of_lexes hLexes #[] 1

end Weave.Token
