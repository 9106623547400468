import Weave.Fault
import Weave.Source.Token
import Weave.Text.Blank

/-! # Lexing a source text

The lexer reads a text left to right. At each position the first characters decide what
opens there: a line feed, another blank, a string (`"` or `@"`), a character literal
(`'`), a block comment (`/*`), a line comment (`//`), a bracket, or else a character of
a word. Words are the maximal runs of word characters. Literals run through the first
closing quote that no backslash escapes; a block comment through the first `*/` after
its opening; a line comment up to the next line feed, without its trailing carriage
returns, and a newline token always follows it. Every step consumes at least one
character, so lexing ends without fuel.
-/

namespace Weave

open Weave.Text

/-- What a position of the text opens, judged by its first two characters. -/
inductive Opening where
  | lineFeed
  | blank
  | string
  | verbatim
  | char
  | blockComment
  | lineComment
  | bracket
  | wordChar
deriving DecidableEq, Repr

namespace Opening

/-- What the character `c`, followed by `rest`, opens. -/
def read (c : Char) (rest : List Char) : Opening :=
  if c == '\n' then lineFeed
  else if isBlank c then blank
  else if c == '"' then string
  else if c == '@' && rest.head? == some '"' then verbatim
  else if c == '\'' then char
  else if c == '/' && rest.head? == some '*' then blockComment
  else if c == '/' && rest.head? == some '/' then lineComment
  else if isBracket c then bracket
  else wordChar

end Opening

namespace Token

/-- Reads the rest of a quoted literal through its closing `close`: the characters read,
closing one included, and what follows. A backslash escapes the next character unless
it is itself escaped. `none` when the text ends first. -/
def readQuoted (close : Char) : Bool → List Char → Option (List Char × List Char)
  | _, [] => none
  | escaped, c :: cs =>
    if c == close && !escaped then some ([c], cs)
    else (readQuoted close (c == '\\' && !escaped) cs).map fun (b, r) => (c :: b, r)

def readBlock : List Char → Option (List Char × List Char)
  | [] => none
  | '*' :: '/' :: r => some (['*', '/'], r)
  | c :: cs => (readBlock cs).map fun (b, r) => (c :: b, r)

def spanWord : List Char → List Char × List Char
  | [] => ([], [])
  | c :: cs =>
    if Opening.read c cs == .wordChar then
      let (w, r) := spanWord cs
      (c :: w, r)
    else ([], c :: cs)

theorem readQuoted_length {close : Char} {e : Bool} {l b r : List Char}
    (h : readQuoted close e l = some (b, r)) : r.length < l.length := by
  induction l generalizing e b with
  | nil => simp [readQuoted] at h
  | cons c cs ih =>
    simp only [readQuoted] at h
    split at h
    · simp only [Option.some.injEq, Prod.mk.injEq] at h
      obtain ⟨-, rfl⟩ := h
      simp
    · obtain ⟨⟨b', r'⟩, h', he⟩ := Option.map_eq_some_iff.1 h
      simp only [Prod.mk.injEq] at he
      obtain ⟨-, rfl⟩ := he
      have := ih h'
      simp only [List.length_cons]
      omega

theorem readBlock_length {l b r : List Char} (h : readBlock l = some (b, r)) :
    r.length < l.length := by
  revert b r
  fun_induction readBlock l with
  | case1 => simp
  | case2 t =>
    intro b r h
    simp only [Option.some.injEq, Prod.mk.injEq] at h
    obtain ⟨-, rfl⟩ := h
    simp only [List.length_cons]
    omega
  | case3 c cs _ ih =>
    intro b r h
    obtain ⟨⟨b', r'⟩, h', he⟩ := Option.map_eq_some_iff.1 h
    simp only [Prod.mk.injEq] at he
    obtain ⟨-, rfl⟩ := he
    have := ih h'
    simp only [List.length_cons]
    omega

theorem spanWord_append (l : List Char) : (spanWord l).1 ++ (spanWord l).2 = l := by
  induction l with
  | nil => rfl
  | cons c cs ih =>
    simp only [spanWord]
    split <;> simp [ih]

theorem spanWord_length {c : Char} {cs : List Char} (h : Opening.read c cs = .wordChar) :
    (spanWord (c :: cs)).2.length < (c :: cs).length := by
  have e := spanWord_append cs
  simp only [spanWord, h, beq_self_eq_true, ↓reduceIte, List.length_cons]
  have := congrArg List.length e
  simp only [List.length_append] at this
  omega

def lineFeeds (l : List Char) : Nat :=
  l.count '\n'

def lineComment (body : List Char) : Token :=
  ⟨.lineComment, String.ofList (('/' :: body).reverse.dropWhile (· == '\r')).reverse⟩

set_option linter.unusedVariables false in
/-- Lexes the rest of a text whose current line is `line`, after the tokens `acc`. -/
def lexFrom (acc : Array Token) (line : Nat) : List Char → Except Fault (Array Token)
  | [] => .ok acc
  | c :: cs =>
    match h : Opening.read c cs with
    | .lineFeed => lexFrom (acc.push newline) (line + 1) cs
    | .blank => lexFrom acc line cs
    | .string =>
      match hr : readQuoted '"' false cs with
      | none => .error (.unterminatedLiteral "\"" line "")
      | some (b, r) =>
        lexFrom (acc.push ⟨.string, String.ofList (c :: b)⟩) (line + lineFeeds b) r
    | .verbatim =>
      match hr : readQuoted '"' false cs.tail with
      | none => .error (.unterminatedLiteral "@\"" line "")
      | some (b, r) =>
        lexFrom (acc.push ⟨.string, String.ofList (c :: '"' :: b)⟩) (line + lineFeeds b) r
    | .char =>
      match hr : readQuoted '\'' false cs with
      | none => .error (.unterminatedLiteral "'" line "")
      | some (b, r) =>
        lexFrom (acc.push ⟨.char, String.ofList (c :: b)⟩) (line + lineFeeds b) r
    | .blockComment =>
      match hr : readBlock cs.tail with
      | none => .error (.unterminatedLiteral "/*" line "")
      | some (b, r) =>
        lexFrom (acc.push ⟨.blockComment, String.ofList (c :: '*' :: b)⟩) (line + lineFeeds b) r
    | .lineComment =>
      let body := cs.takeWhile (· != '\n')
      let rest := (cs.dropWhile (· != '\n')).drop 1
      lexFrom ((acc.push (lineComment body)).push newline) (line + 1) rest
    | .bracket => lexFrom (acc.push ⟨.punctuation, String.singleton c⟩) line cs
    | .wordChar =>
      let w := spanWord (c :: cs)
      lexFrom (acc.push ⟨.word, String.ofList w.1⟩) line w.2
termination_by l => l.length
decreasing_by
  all_goals simp only [List.length_cons]
  · omega
  · omega
  · have := readQuoted_length hr; omega
  · have := readQuoted_length hr; have := @List.length_tail _ cs; omega
  · have := readQuoted_length hr; omega
  · have := readBlock_length hr; have := @List.length_tail _ cs; omega
  · have := @List.length_drop _ 1 (cs.dropWhile (· != '\n'))
    have := (@List.dropWhile_suffix _ cs (· != '\n')).length_le
    omega
  · omega
  · exact spanWord_length h

def lex (s : String) : Except Fault (List Token) :=
  (lexFrom #[] 1 s.toList).map Array.toList

end Token

end Weave
