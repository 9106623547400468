/-! # Tokens of a source text

A token is a piece of source text of one of seven kinds. Its kind can be read off its
first characters: a line feed alone is a newline, `//` opens a line comment and `/*` a
block comment, `"` or `@"` opens a string, `'` a character literal, a single bracket is
punctuation, and everything else is a word. `TokenKind.ofText` is that reading; the lexer
records the kind of the rule that made each token, and the two agree.
-/

namespace Weave

/-- The seven kinds of token. -/
inductive TokenKind where
  | newline
  | word
  | punctuation
  | string
  | char
  | lineComment
  | blockComment
deriving DecidableEq, Repr

namespace TokenKind

def name : TokenKind → String
  | newline => "newline"
  | word => "word"
  | punctuation => "punctuation"
  | string => "string"
  | char => "char"
  | lineComment => "line_comment"
  | blockComment => "block_comment"

def isComment : TokenKind → Bool
  | lineComment | blockComment => true
  | _ => false

end TokenKind

def isBracket (c : Char) : Bool :=
  c == '{' || c == '}' || c == '<' || c == '>' || c == '(' || c == ')' || c == '[' || c == ']'

namespace TokenKind

/-- The kind of a token, read off its leading characters: its first one, and for the
openings of two characters its second one. -/
def ofChars : List Char → TokenKind
  | [] => word
  | [c] =>
    if c == '\n' then newline
    else if c == '"' then string
    else if c == '\'' then char
    else if isBracket c then punctuation
    else word
  | c :: d :: _ =>
    if c == '/' && d == '/' then lineComment
    else if c == '/' && d == '*' then blockComment
    else if c == '"' then string
    else if c == '@' && d == '"' then string
    else if c == '\'' then char
    else word

def ofText (t : String) : TokenKind :=
  ofChars t.toList

end TokenKind

/-- A token: its text and the kind of the rule that produced it. -/
structure Token where
  kind : TokenKind
  text : String
deriving DecidableEq, Repr

namespace Token

def newline : Token :=
  ⟨.newline, "\n"⟩

def isNewline (t : Token) : Bool :=
  t.text == "\n"

end Token

end Weave
