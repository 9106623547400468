import Weave.Registry.Basic
import Weave.Source.Lexer
import Weave.Source.Line

/-! # Classifying lines and finding declarations

The walk goes through a source's tokens beside a second read of the same text. Each line
feed that a token stands for or holds completes a physical line: the line is read from
the text and must hold the same visible characters as the tokens gathered for it, and it
becomes a comment line when its first token is a comment, or when it continues a comment
line in a multi-line token; otherwise a code line. A `class`, `struct`, `enum`,
`interface` or `delegate` keyword outside comments and literals adds the type it names
to the registry, at the line where the name starts. The walk fails when the tokens end
inside a declaration, when a name is declared twice, and when the text has fewer or more
lines than the tokens, or other visible characters on a line.
-/

namespace Weave

open Weave.Text

/-- The state of the walk. -/
structure Walk where
  unread : List Char
  lines : Array SourceLine
  inComment : Bool
  atLineStart : Bool
  keyword : String
  previous : String
  pending : Array String
  registry : Registry
  file : String

abbrev WalkM := EStateM Fault Walk

namespace Walk

def start (text : String) (registry : Registry) (file : String) : Walk :=
  ⟨text.toList, #[], false, true, "", "", #[], registry, file⟩

def nextNumber (w : Walk) : Nat :=
  w.lines.size + 1

def malformed : WalkM Unit := do
  let w ← get
  throw (.malformedDeclaration w.keyword w.file w.nextNumber)

def readLine : WalkM String := do
  let w ← get
  if w.unread.isEmpty then
    throw (.sourceMismatch .fewerLines w.file w.nextNumber)
  let (line, rest) := splitLine w.unread
  set { w with unread := rest }
  pure (String.ofList (dropReturn line))

def checkLine (text : String) : WalkM Unit := do
  let w ← get
  let expected := String.join w.pending.toList
  if visible text != visible expected then
    set { w with pending := #[] }
    throw (.sourceMismatch .lineDiffers w.file w.nextNumber)
  let kind := if w.inComment then LineKind.comment else LineKind.code
  set { w with pending := #[], lines := w.lines.push ⟨kind, text, w.nextNumber⟩ }

/-- Consumes one token: a line feed completes the current line; any other token joins
it, completing one line for each line feed it holds. -/
def advance (t : Token) : WalkM Unit := do
  if t.isNewline then
    checkLine (← readLine)
    modify fun w => { w with atLineStart := true }
  else
    if !(TokenKind.ofText t.text).isComment then
      modify fun w => { w with previous := t.text }
    let pieces := t.text.toList.splitOn '\n'
    for piece in pieces.dropLast do
      modify fun w => { w with pending := w.pending.push (String.ofList piece) }
      checkLine (← readLine)
    modify fun w => { w with pending := w.pending.push (String.ofList (pieces.getLastD [])) }

def peek : List Token → WalkM Token
  | t :: _ => pure t
  | [] => do malformed; pure Token.newline

def baseName (s : String) : String :=
  let cut (c : Char) (cs : List Char) := cs.takeWhile (· != c)
  String.ofList (cut ',' (cut ';' (cut ':' s.toList)))

abbrev Rest (ts : List Token) := { r : List Token // r.length ≤ ts.length }

def skipNewlines : (ts : List Token) → WalkM (Rest ts)
  | [] => do malformed; pure ⟨[], Nat.le_refl _⟩
  | t :: ts =>
    if t.isNewline then do
      advance t
      let ⟨r, h⟩ ← skipNewlines ts
      pure ⟨r, by simp only [List.length_cons]; omega⟩
    else pure ⟨t :: ts, Nat.le_refl _⟩

/-- Consumes a balanced block from `openText` to its matching `closeText`, `depth`
blocks deep, and gives its tokens' text, line feeds left out, after `parts`. -/
def skipBlock (openText closeText : String) (depth : Int) (parts : Array String) :
    (ts : List Token) → WalkM (String × Rest ts)
  | [] => do malformed; pure ("", ⟨[], Nat.le_refl _⟩)
  | t :: ts => do
    advance t
    let parts := if t.isNewline then parts else parts.push t.text
    let finish (depth : Int) : WalkM (String × Rest (t :: ts)) := do
      let (s, ⟨r, h⟩) ← skipBlock openText closeText depth parts ts
      pure (s, ⟨r, by simp only [List.length_cons]; omega⟩)
    if t.text == openText then finish (depth + 1)
    else if t.text == closeText then
      if depth - 1 ≤ 0 then pure (String.join parts.toList, ⟨ts, by simp⟩)
      else finish (depth - 1)
    else finish depth

def skipGeneric (ts : List Token) : WalkM (String × Rest ts) :=
  if ts.head?.map Token.text == some "<" then skipBlock "<" ">" 0 #[] ts
  else pure ("", ⟨ts, Nat.le_refl _⟩)

/-- Reads a type name and its generic block: the name and the line it starts on. -/
def typeName (ts : List Token) : WalkM (String × Nat × Rest ts) := do
  let ⟨r, h⟩ ← skipNewlines ts
  let line := (← get).nextNumber
  match r, h with
  | [], _ => do malformed; pure ("", line, ⟨[], Nat.zero_le _⟩)
  | t :: r', h =>
    advance t
    let (g, ⟨r'', h'⟩) ← skipGeneric r'
    pure (baseName t.text ++ g, line, ⟨r'', by simp only [List.length_cons] at h; omega⟩)

def register (name : String) (kind : DeclKind) (line : Nat) : WalkM Unit := do
  if name.isEmpty || TokenKind.ofText name != .word then return
  let w ← get
  match w.registry.insert ⟨.str name, kind, .str w.file, .int line⟩ with
  | .ok r => set { w with registry := r }
  | .error e => throw e

/-- Reads the declaration introduced by `keyword`, whose tokens follow in `ts`; the last
token consumed before the keyword, not counting comments and line feeds, was
`previous`. A `class` or `struct` after a token ending in `:` is a constraint. -/
def declaration (keyword previous : String) (ts : List Token) : WalkM (Rest ts) := do
  modify fun w => { w with keyword := keyword }
  if (keyword == "class" || keyword == "struct") && previous.endsWith ":" then
    return ⟨ts, Nat.le_refl _⟩
  if keyword == "class" then
    let (name, line, r) ← typeName ts
    register name .classDecl line
    return r
  else if keyword == "struct" then
    let t ← peek ts
    if t.text == "\x7b" || t.isNewline then return ⟨ts, Nat.le_refl _⟩
    let (name, line, r) ← typeName ts
    register name .structDecl line
    return r
  else if keyword == "enum" || keyword == "interface" then
    let r ← skipNewlines ts
    let t ← peek r.1
    register (baseName t.text) (if keyword == "enum" then .enumDecl else .interfaceDecl)
      (← get).nextNumber
    return r
  else
    let ⟨r, h⟩ ← skipNewlines ts
    match r, h with
    | [], _ => do malformed; return ⟨[], Nat.zero_le _⟩
    | t :: r', h =>
      advance t
      if t.text == "\x7b" || t.text == "(" then
        return ⟨r', by simp only [List.length_cons] at h; omega⟩
      let (_, ⟨r'', h'⟩) ← skipGeneric r'
      let n ← peek r''
      register (baseName n.text) .delegateDecl (← get).nextNumber
      return ⟨r'', by simp only [List.length_cons] at h; omega⟩

def classifyToken (t : Token) : WalkM Bool := do
  let w ← get
  if w.atLineStart && (TokenKind.ofText t.text).isComment then
    set { w with inComment := true }
    return true
  set { w with inComment := false, atLineStart := false }
  return false

def isDeclKeyword (s : String) : Bool :=
  s == "class" || s == "struct" || s == "enum" || s == "interface" || s == "delegate"

/-- Completes the text after the last token: a last line without a line feed, or a last
line of blanks; the text must end there. -/
def finish : WalkM Unit := do
  let w ← get
  if !w.unread.isEmpty || !w.pending.isEmpty then
    let (line, rest) := splitLine w.unread
    set { w with unread := rest }
    checkLine (String.ofList (dropReturn line))
  let w ← get
  if !w.unread.isEmpty then
    throw (.sourceMismatch .moreLines w.file w.nextNumber)

/-- Walks the remaining tokens. -/
def run : List Token → WalkM Unit
  | [] => finish
  | t :: ts => do
    if t.isNewline then
      advance t
      run ts
    else
      let previous := (← get).previous
      let isComment ← classifyToken t
      advance t
      if !isComment && isDeclKeyword t.text then
        let ⟨r, _⟩ ← declaration t.text previous ts
        run r
      else run ts
termination_by ts => ts.length

end Walk

/-- What classifying a source gives: its lines, or the fault that stopped the walk; and
the registry with the declarations added up to then. -/
structure Classified where
  lines : Except Fault (List SourceLine)
  registry : Registry

def classifyLines (tokens : List Token) (text : String) (registry : Registry)
    (file : String) : Classified :=
  match (Walk.run tokens).run (Walk.start text registry file) with
  | .ok _ w => ⟨.ok w.lines.toList, w.registry⟩
  | .error e w => ⟨.error e, w.registry⟩

end Weave
