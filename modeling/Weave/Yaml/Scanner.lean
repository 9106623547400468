import Weave.Yaml.Token
import Weave.Text.Surrogate
import Weave.Text.Codec

/-! # Scanning YAML tokens

The scanner reads a YAML text into tokens on demand. Block structure comes from
indentation: a column deeper than the current indentation opens a block collection, and
a shallower one closes blocks with block-end tokens. A plain or quoted scalar, an alias,
an anchor, a tag or a flow collection may turn out to be a key once a `:` follows on the
same line within 1024 characters; it is remembered as a possible simple key, and a key
token (and a block mapping start) is inserted before it when the `:` comes. A token is
handed out only when no possible key could still be inserted before it. Every loop
consumes a character or stops, so fuel of the text's length suffices.
-/

namespace Weave.Yaml

/-- A token that may turn out to be a key. -/
structure SimpleKey where
  tokenNumber : Nat
  required : Bool
  index : Nat
  line : Nat
  mark : Mark

/-- The state of the scanner. -/
structure Scanner where
  buffer : Array Char
  pointer : Nat
  line : Nat
  column : Nat
  done : Bool
  flowLevel : Int
  queue : Array Marked
  taken : Nat
  indent : Int
  indents : List Int
  allowSimpleKey : Bool
  simpleKeys : List (Int × SimpleKey)

abbrev ScanM := EStateM YamlError Scanner

namespace Scanner

def start (text : String) : Scanner :=
  ⟨(text.toList ++ ['\x00']).toArray, 0, 0, 0, false, 0, #[⟨.streamStart, ⟨0, 0, 0⟩, ⟨0, 0, 0⟩⟩],
    0, -1, [], true, []⟩

def isBreak (c : Char) : Bool :=
  c == '\r' || c == '\n' || c == '\x85' || c == '\u2028' || c == '\u2029'

def isBlankOrEnd (c : Char) : Bool :=
  c == ' ' || c == '\t' || isLineEnd c

def isNameChar (c : Char) : Bool :=
  ('0' ≤ c && c ≤ '9') || ('A' ≤ c && c ≤ 'Z') || ('a' ≤ c && c ≤ 'z') || c == '-' || c == '_'

def isUriChar (c : Char) : Bool :=
  isNameChar c || ";/?:@&=+$,.!~*'()[]%".contains c

def peekAt (k : Nat) : ScanM Char := do
  let s ← get
  pure (s.buffer.getD (s.pointer + k) '\x00')

def peek : ScanM Char := peekAt 0

def prefixText (n : Nat) : ScanM String := do
  let s ← get
  pure (String.ofList ((s.buffer.toList.drop s.pointer).take n))

def mark : ScanM Mark := do
  let s ← get
  pure ⟨s.pointer, s.line, s.column⟩

def forwardOne : ScanM Unit := modify fun s =>
  let c := s.buffer.getD s.pointer '\x00'
  let next := s.buffer.getD (s.pointer + 1) '\x00'
  if c == '\n' || c == '\x85' || c == '\u2028' || c == '\u2029' || (c == '\r' && next != '\n') then
    { s with pointer := s.pointer + 1, line := s.line + 1, column := 0 }
  else if c != '\uFEFF' then { s with pointer := s.pointer + 1, column := s.column + 1 }
  else { s with pointer := s.pointer + 1 }

def forward : Nat → ScanM Unit
  | 0 => pure ()
  | n + 1 => do forwardOne; forward n

def fuel : ScanM Nat := do
  let s ← get
  pure (s.buffer.size - s.pointer + 1)

def skipWhile (p : Char → Bool) : ScanM Unit := do
  let rec go : Nat → ScanM Unit
    | 0 => pure ()
    | n + 1 => do
      if p (← peek) then
        forwardOne
        go n
  go (← fuel)

def countWhile (p : Char → Bool) : ScanM Nat := do
  let s ← get
  pure (((s.buffer.toList.drop s.pointer).takeWhile p).length)

def fail {α : Type} (context : Option String) (contextMark : Option Mark) (problem : String) :
    ScanM α := do
  throw (.marked context contextMark problem (some (← mark)))

def shown (c : Char) : String :=
  quoteText (String.singleton c)

/-- Reads a line break, normalised to a line feed except for the line and paragraph
separators; empty when there is none. -/
def scanLineBreak : ScanM String := do
  let c ← peek
  if c == '\r' || c == '\n' || c == '\x85' then
    if (← prefixText 2) == "\r\n" then forward 2 else forward 1
    pure "\n"
  else if c == '\u2028' || c == '\u2029' then
    forward 1
    pure (String.singleton c)
  else pure ""

def push (t : Token) (start stop : Mark) : ScanM Unit :=
  modify fun s => { s with queue := s.queue.push ⟨t, start, stop⟩ }

def pushHere (t : Token) : ScanM Unit := do
  let m ← mark
  push t m m

def pushIndicator (t : Token) : ScanM Unit := do
  let m ← mark
  forward 1
  push t m (← mark)

/-- Forgets possible simple keys that can no longer be keys: another line, or more than
1024 characters back. A required one is an error. -/
def staleKeys : ScanM Unit := do
  let s ← get
  let rec go : List (Int × SimpleKey) → ScanM (List (Int × SimpleKey))
    | [] => pure []
    | (level, k) :: rest => do
      if k.line != s.line || s.pointer - k.index > 1024 then
        if k.required then
          fail (some "while scanning a simple key") (some k.mark) "could not find expected ':'"
        go rest
      else pure ((level, k) :: (← go rest))
  let kept ← go s.simpleKeys
  modify fun s => { s with simpleKeys := kept }

def removeSimpleKey : ScanM Unit := do
  let s ← get
  match s.simpleKeys.find? (·.1 == s.flowLevel) with
  | some (_, k) =>
    if k.required then
      fail (some "while scanning a simple key") (some k.mark) "could not find expected ':'"
    modify fun s => { s with simpleKeys := s.simpleKeys.filter (·.1 != s.flowLevel) }
  | none => pure ()

def saveSimpleKey : ScanM Unit := do
  let s ← get
  let required := s.flowLevel == 0 && s.indent == (s.column : Int)
  if s.allowSimpleKey then
    removeSimpleKey
    let s ← get
    let k : SimpleKey := ⟨s.taken + s.queue.size, required, s.pointer, s.line, ⟨s.pointer, s.line, s.column⟩⟩
    set { s with simpleKeys := s.simpleKeys ++ [(s.flowLevel, k)] }

/-- Closes the blocks deeper than `column`, outside flow collections. -/
def unwindIndent (column : Int) : ScanM Unit := do
  let rec go : Nat → ScanM Unit
    | 0 => pure ()
    | n + 1 => do
      let s ← get
      if s.indent > column then
        match s.indents with
        | i :: rest =>
          set { s with indent := i, indents := rest }
          pushHere .blockEnd
          go n
        | [] => pure ()
  if (← get).flowLevel == 0 then
    go ((← get).indents.length + 1)

def addIndent (column : Int) : ScanM Bool := do
  let s ← get
  if s.indent < column then
    set { s with indents := s.indent :: s.indents, indent := column }
    pure true
  else pure false

/-- Skips blanks, comments and line breaks up to the next token. -/
def scanToNextToken : ScanM Unit := do
  let s ← get
  if s.pointer == 0 && (← peek) == '\uFEFF' then forward 1
  let rec go : Nat → ScanM Unit
    | 0 => pure ()
    | n + 1 => do
      skipWhile (· == ' ')
      if (← peek) == '#' then skipWhile (fun c => !isLineEnd c)
      if (← scanLineBreak) != "" then
        if (← get).flowLevel == 0 then modify fun s => { s with allowSimpleKey := true }
        go n
  go (← fuel)

/-- Reads an anchor or alias name after its indicator. -/
def scanAnchor (isAlias : Bool) : ScanM Unit := do
  let start ← mark
  let what := if isAlias then "alias" else "anchor"
  forward 1
  let n ← countWhile isNameChar
  if n == 0 then
    fail (some ("while scanning an " ++ what)) (some start)
      ("expected alphabetic or numeric character, but found " ++ shown (← peekAt n))
  let name ← prefixText n
  forward n
  let c ← peek
  if !(isBlankOrEnd c || "?:,]\x7d%@\x60".contains c) then
    fail (some ("while scanning an " ++ what)) (some start)
      ("expected alphabetic or numeric character, but found " ++ shown c)
  push (if isAlias then .aliasRef name else .anchor name) start (← mark)

/-- Decodes `%XX` escapes of a tag URI as UTF-8; bytes that are no UTF-8 are reported as
the decoder reports them, at the first escape. -/
def scanUriEscapes (what : String) (start : Mark) : ScanM String := do
  let first ← mark
  let rec go : Nat → List UInt8 → ScanM (List UInt8)
    | 0, acc => pure acc
    | n + 1, acc => do
      if (← peek) != '%' then return acc
      forward 1
      let a ← peekAt 0
      let b ← peekAt 1
      let hex (c : Char) : Option Nat :=
        if '0' ≤ c && c ≤ '9' then some (c.toNat - '0'.toNat)
        else if 'a' ≤ c && c ≤ 'f' then some (c.toNat - 'a'.toNat + 10)
        else if 'A' ≤ c && c ≤ 'F' then some (c.toNat - 'A'.toNat + 10)
        else none
      match hex a, hex b with
      | some x, some y =>
        forward 2
        go n (acc ++ [(x * 16 + y).toUInt8])
      | _, _ =>
        let bad := if (hex a).isNone then a else b
        fail (some ("while scanning a " ++ what)) (some start)
          ("expected URI escape sequence of 2 hexadecimal numbers, but found " ++ shown bad)
  let bytes ← go (← fuel) []
  match Utf8.decodeFrom true [] 0 bytes with
  | .ok (cs, _) => pure (String.ofList cs)
  | .error (.invalid e) =>
    throw (.marked (some ("while scanning a " ++ what)) (some start) e.message (some first))
  | .error _ => pure ""

/-- Reads a tag URI. -/
def scanTagUri (what : String) (start : Mark) : ScanM String := do
  let rec go : Nat → String → ScanM String
    | 0, acc => pure acc
    | n + 1, acc => do
      let c ← peek
      if c == '%' then
        go n (acc ++ (← scanUriEscapes what start))
      else if isUriChar c then
        forward 1
        go n (acc.push c)
      else pure acc
  let uri ← go (← fuel) ""
  if uri.isEmpty then
    fail (some ("while parsing a " ++ what)) (some start)
      ("expected URI, but found " ++ shown (← peek))
  pure uri

/-- Reads a tag handle: `!`, `!!` or `!name!`. -/
def scanTagHandle (what : String) (start : Mark) : ScanM String := do
  if (← peek) != '!' then
    fail (some ("while scanning a " ++ what)) (some start)
      ("expected '!', but found " ++ shown (← peek))
  let mut n := 1
  if (← peekAt 1) != ' ' then
    let s ← get
    n := 1 + ((s.buffer.toList.drop (s.pointer + 1)).takeWhile isNameChar).length
    if (← peekAt n) != '!' then
      forward n
      fail (some ("while scanning a " ++ what)) (some start)
        ("expected '!', but found " ++ shown (← peek))
    n := n + 1
  let handle ← prefixText n
  forward n
  pure handle

/-- Reads a tag. -/
def scanTag : ScanM Unit := do
  let start ← mark
  let c ← peekAt 1
  let mut handle : Option String := none
  let mut suffix := ""
  if c == '<' then
    forward 2
    suffix ← scanTagUri "tag" start
    if (← peek) != '>' then
      fail (some "while parsing a tag") (some start)
        ("expected '>', but found " ++ shown (← peek))
    forward 1
  else if isBlankOrEnd c then
    suffix := "!"
    forward 1
  else
    let s ← get
    let rest := (s.buffer.toList.drop (s.pointer + 1)).takeWhile
      fun c => !(c == ' ' || isLineEnd c)
    if rest.contains '!' then
      handle := some (← scanTagHandle "tag" start)
    else
      handle := some "!"
      forward 1
    suffix ← scanTagUri "tag" start
  let c ← peek
  if !(c == ' ' || isLineEnd c) then
    fail (some "while scanning a tag") (some start) ("expected ' ', but found " ++ shown c)
  push (.tag handle suffix) start (← mark)

/-- Reads the indicators after `|` or `>`: chomping (`+` keeps, `-` strips) and an
indentation increment from 1 to 9. -/
def scanBlockIndicators (start : Mark) : ScanM (Option Bool × Option Nat) := do
  let mut chomping : Option Bool := none
  let mut increment : Option Nat := none
  let c ← peek
  if c == '+' || c == '-' then
    chomping := some (c == '+')
    forward 1
    let d ← peek
    if d.isDigit then
      if d == '0' then
        fail (some "while scanning a block scalar") (some start)
          "expected indentation indicator in the range 1-9, but found 0"
      increment := some (d.toNat - '0'.toNat)
      forward 1
  else if c.isDigit then
    if c == '0' then
      fail (some "while scanning a block scalar") (some start)
        "expected indentation indicator in the range 1-9, but found 0"
    increment := some (c.toNat - '0'.toNat)
    forward 1
    let d ← peek
    if d == '+' || d == '-' then
      chomping := some (d == '+')
      forward 1
  let c ← peek
  if !(c == ' ' || isLineEnd c) then
    fail (some "while scanning a block scalar") (some start)
      ("expected chomping or indentation indicators, but found " ++ shown c)
  pure (chomping, increment)

def scanBlockIgnoredLine (start : Mark) : ScanM Unit := do
  skipWhile (· == ' ')
  if (← peek) == '#' then skipWhile (fun c => !isLineEnd c)
  let c ← peek
  if !isLineEnd c then
    fail (some "while scanning a block scalar") (some start)
      ("expected a comment or a line break, but found " ++ shown c)
  discard scanLineBreak

/-- Reads the blank lines before the first line of a block scalar: their breaks, the
deepest indentation seen and the mark after the last break. -/
def scanBlockIndentation : ScanM (List String × Nat × Mark) := do
  let rec go : Nat → List String → Nat → Mark → ScanM (List String × Nat × Mark)
    | 0, bs, m, e => pure (bs, m, e)
    | n + 1, bs, m, e => do
      let c ← peek
      if c == ' ' then
        forward 1
        let col := (← get).column
        go n bs (max m col) e
      else if isBreak c then
        let b ← scanLineBreak
        go n (bs ++ [b]) m (← mark)
      else pure (bs, m, e)
  go (← fuel) [] 0 (← mark)

/-- Reads the line breaks between lines of a block scalar, and indentation up to
`indent`. -/
def scanBlockBreaks (indent : Nat) : ScanM (List String × Mark) := do
  let skipIndent : ScanM Unit := do
    let rec skip : Nat → ScanM Unit
      | 0 => pure ()
      | n + 1 => do
        if (← get).column < indent && (← peek) == ' ' then
          forward 1
          skip n
    skip (← fuel)
  skipIndent
  let rec go : Nat → List String → Mark → ScanM (List String × Mark)
    | 0, bs, e => pure (bs, e)
    | n + 1, bs, e => do
      if isBreak (← peek) then
        let b ← scanLineBreak
        let e ← mark
        skipIndent
        go n (bs ++ [b]) e
      else pure (bs, e)
  go (← fuel) [] (← mark)

/-- Reads a literal (`|`) or folded (`>`) block scalar. -/
def scanBlockScalar (folded : Bool) : ScanM Unit := do
  let start ← mark
  forward 1
  let (chomping, increment) ← scanBlockIndicators start
  scanBlockIgnoredLine start
  let minIndent : Nat := max 1 ((← get).indent + 1).toNat
  let (breaks0, indent, end0) ← match increment with
    | none => do
      let (bs, maxIndent, e) ← scanBlockIndentation
      pure (bs, max minIndent maxIndent, e)
    | some inc => do
      let indent := minIndent + inc - 1
      let (bs, e) ← scanBlockBreaks indent
      pure (bs, indent, e)
  let rec lines : Nat → List String → List String → String → Mark →
      ScanM (List String × List String × String × Mark)
    | 0, chunks, bs, lb, e => pure (chunks, bs, lb, e)
    | n + 1, chunks, bs, lb, e => do
      if (← get).column == indent && (← peek) != '\x00' then
        let chunks := chunks ++ bs
        let leadingNonSpace := !((← peek) == ' ' || (← peek) == '\t')
        let len ← countWhile (fun c => !isLineEnd c)
        let text ← prefixText len
        forward len
        let lb ← scanLineBreak
        let (bs, e) ← scanBlockBreaks indent
        let chunks := chunks ++ [text]
        if (← get).column == indent && (← peek) != '\x00' then
          let c ← peek
          let chunks :=
            if folded && lb == "\n" && leadingNonSpace && !(c == ' ' || c == '\t') then
              if bs.isEmpty then chunks ++ [" "] else chunks
            else chunks ++ [lb]
          lines n chunks bs lb e
        else pure (chunks, bs, lb, e)
      else pure (chunks, bs, lb, e)
  let (chunks, bs, lb, e) ← lines (← fuel) [] breaks0 "" end0
  let chunks := if chomping != some false then chunks ++ [lb] else chunks
  let chunks := if chomping == some true then chunks ++ bs else chunks
  push (.scalar (String.join chunks) false (some (if folded then '>' else '|'))) start e

/-- The character an escape letter of a double-quoted scalar stands for. -/
def escapeReplacement : Char → Option Char
  | '0' => some '\x00'
  | 'a' => some '\x07'
  | 'b' => some '\x08'
  | 't' => some '\t'
  | '\t' => some '\t'
  | 'n' => some '\n'
  | 'v' => some '\x0b'
  | 'f' => some '\x0c'
  | 'r' => some '\r'
  | 'e' => some '\x1b'
  | ' ' => some ' '
  | '"' => some '"'
  | '\\' => some '\\'
  | '/' => some '/'
  | 'N' => some '\x85'
  | '_' => some '\xa0'
  | 'L' => some '\u2028'
  | 'P' => some '\u2029'
  | _ => none

/-- Reads the line breaks inside a quoted scalar. -/
def scanFlowBreaks (start : Mark) : ScanM (List String) := do
  let rec go : Nat → List String → ScanM (List String)
    | 0, acc => pure acc
    | n + 1, acc => do
      let p ← prefixText 3
      if (p == "---" || p == "...") && isBlankOrEnd (← peekAt 3) then
        fail (some "while scanning a quoted scalar") (some start) "found unexpected document separator"
      skipWhile (fun c => c == ' ' || c == '\t')
      if isBreak (← peek) then
        let b ← scanLineBreak
        go n (acc ++ [b])
      else pure acc
  go (← fuel) []

/-- Reads a run of a quoted scalar up to blanks or its end. -/
def scanFlowNonSpaces (double : Bool) (start : Mark) : ScanM (List String) := do
  let rec go : Nat → List String → ScanM (List String)
    | 0, acc => pure acc
    | n + 1, acc => do
      let len ← countWhile fun c => !(c == '\'' || c == '"' || c == '\\' || isBlankOrEnd c)
      let mut acc := acc
      if len > 0 then
        acc := acc ++ [← prefixText len]
        forward len
      let c ← peek
      if !double && c == '\'' && (← peekAt 1) == '\'' then
        forward 2
        go n (acc ++ ["'"])
      else if (double && c == '\'') || (!double && (c == '"' || c == '\\')) then
        forward 1
        go n (acc ++ [String.singleton c])
      else if double && c == '\\' then
        forward 1
        let e ← peek
        match escapeReplacement e with
        | some r =>
          forward 1
          go n (acc ++ [String.singleton r])
        | none =>
          if e == 'x' || e == 'u' || e == 'U' then
            let width := if e == 'x' then 2 else if e == 'u' then 4 else 8
            forward 1
            let digits ← prefixText width
            match digits.toList.findIdx? (fun d => !d.isHexDigit) with
            | some k =>
              fail (some "while scanning a double-quoted scalar") (some start)
                ("expected escape sequence of " ++ toString width ++
                  " hexadecimal numbers, but found " ++ shown (← peekAt k))
            | none =>
              let code := digits.toList.foldl (fun v d =>
                v * 16 + (if d.isDigit then d.toNat - '0'.toNat
                  else (d.toLower.toNat - 'a'.toNat + 10))) 0
              forward width
              if code ≥ 0x80000000 then throw (.fault .codeTooLarge)
              if code ≥ 0x110000 then throw (.fault .codeOutOfRange)
              go n (acc ++ [String.singleton (Text.ofCode code)])
          else if isBreak e then
            discard scanLineBreak
            let bs ← scanFlowBreaks start
            go n (acc ++ bs)
          else
            fail (some "while scanning a double-quoted scalar") (some start)
              ("found unknown escape character " ++ shown e)
      else pure acc
  go (← fuel) []

/-- Reads blanks and line breaks inside a quoted scalar. -/
def scanFlowSpaces (start : Mark) : ScanM (List String) := do
  let len ← countWhile fun c => c == ' ' || c == '\t'
  let spaces ← prefixText len
  forward len
  let c ← peek
  if c == '\x00' then
    fail (some "while scanning a quoted scalar") (some start) "found unexpected end of stream"
  else if isBreak c then
    let lb ← scanLineBreak
    let bs ← scanFlowBreaks start
    let first := if lb != "\n" then [lb] else if bs.isEmpty then [" "] else []
    pure (first ++ bs)
  else pure [spaces]

/-- Reads a single- or double-quoted scalar. -/
def scanFlowScalar (double : Bool) : ScanM Unit := do
  let start ← mark
  let quote ← peek
  forward 1
  let first ← scanFlowNonSpaces double start
  let rec go : Nat → List String → ScanM (List String)
    | 0, acc => pure acc
    | n + 1, acc => do
      if (← peek) == quote then pure acc
      else
        let sp ← scanFlowSpaces start
        let ns ← scanFlowNonSpaces double start
        go n (acc ++ sp ++ ns)
  let chunks ← go (← fuel) first
  forward 1
  push (.scalar (String.join chunks) false (some (if double then '"' else '\''))) start (← mark)

/-- Reads the blanks and line breaks after a run of a plain scalar; `none` when a
document marker follows. -/
def scanPlainSpaces : ScanM (Option (List String)) := do
  let len ← countWhile (· == ' ')
  let spaces ← prefixText len
  forward len
  let c ← peek
  if isBreak c then
    let lb ← scanLineBreak
    modify fun s => { s with allowSimpleKey := true }
    let marker : ScanM Bool := do
      let p ← prefixText 3
      pure ((p == "---" || p == "...") && isBlankOrEnd (← peekAt 3))
    if ← marker then return none
    let rec go : Nat → List String → ScanM (Option (List String))
      | 0, bs => pure (some bs)
      | n + 1, bs => do
        let c ← peek
        if c == ' ' then
          forward 1
          go n bs
        else if isBreak c then
          let b ← scanLineBreak
          if ← marker then return none
          go n (bs ++ [b])
        else pure (some bs)
    match ← go (← fuel) [] with
    | none => pure none
    | some bs =>
      let first := if lb != "\n" then [lb] else if bs.isEmpty then [" "] else []
      pure (some (first ++ bs))
  else if spaces.isEmpty then pure (some [])
  else pure (some [spaces])

/-- Reads a plain scalar. -/
def scanPlain : ScanM Unit := do
  let start ← mark
  let indent := (← get).indent + 1
  let rec go : Nat → List String → List String → Mark → ScanM (List String × Mark)
    | 0, chunks, _, e => pure (chunks, e)
    | n + 1, chunks, spaces, e => do
      if (← peek) == '#' then return (chunks, e)
      let s ← get
      let flow := s.flowLevel != 0
      let rest := s.buffer.toList.drop s.pointer
      let stops (l : List Char) : Bool :=
        match l with
        | c :: more =>
          isBlankOrEnd c ||
            (c == ':' && (let d := more.headD '\x00'
              isBlankOrEnd d || (flow && ",[]\x7b\x7d".contains d))) ||
            (flow && ",?[]\x7b\x7d".contains c)
        | [] => true
      let len := ((List.range rest.length).find? fun i => stops (rest.drop i)).getD rest.length
      if len == 0 then return (chunks, e)
      modify fun s => { s with allowSimpleKey := false }
      let text ← prefixText len
      forward len
      let chunks := chunks ++ spaces ++ [text]
      let e ← mark
      match ← scanPlainSpaces with
      | none => pure (chunks, e)
      | some sp =>
        if sp.isEmpty || (← peek) == '#' || (!flow && ((← get).column : Int) < indent) then
          pure (chunks, e)
        else go n chunks sp e
  let (chunks, e) ← go (← fuel) [] [] start
  push (.scalar (String.join chunks) true none) start e

/-- Reads the name of a directive. -/
def scanDirectiveName (start : Mark) : ScanM String := do
  let n ← countWhile isNameChar
  if n == 0 then
    fail (some "while scanning a directive") (some start)
      ("expected alphabetic or numeric character, but found " ++ shown (← peek))
  let name ← prefixText n
  forward n
  let c ← peek
  if !(c == ' ' || isLineEnd c) then
    fail (some "while scanning a directive") (some start)
      ("expected alphabetic or numeric character, but found " ++ shown c)
  pure name

/-- Reads a decimal number of a version directive. -/
def scanVersionNumber (start : Mark) : ScanM Nat := do
  let c ← peek
  if !c.isDigit then
    fail (some "while scanning a directive") (some start)
      ("expected a digit, but found " ++ shown c)
  let n ← countWhile Char.isDigit
  let digits ← prefixText n
  forward n
  pure (digits.toList.foldl (fun v d => v * 10 + (d.toNat - '0'.toNat)) 0)

/-- Reads the value of a directive, its name read. -/
def scanDirectiveValue (start : Mark) (name : String) : ScanM DirectiveValue := do
  if name == "YAML" then
    skipWhile (· == ' ')
    let major ← scanVersionNumber start
    if (← peek) != '.' then
      fail (some "while scanning a directive") (some start)
        ("expected a digit or '.', but found " ++ shown (← peek))
    forward 1
    let minor ← scanVersionNumber start
    let c ← peek
    if !(c == ' ' || isLineEnd c) then
      fail (some "while scanning a directive") (some start)
        ("expected a digit or ' ', but found " ++ shown c)
    pure (.version major minor)
  else if name == "TAG" then
    skipWhile (· == ' ')
    let handle ← scanTagHandle "directive" start
    if (← peek) != ' ' then
      fail (some "while scanning a directive") (some start)
        ("expected ' ', but found " ++ shown (← peek))
    skipWhile (· == ' ')
    let pre ← scanTagUri "directive" start
    let c ← peek
    if !(c == ' ' || isLineEnd c) then
      fail (some "while scanning a directive") (some start)
        ("expected ' ', but found " ++ shown c)
    pure (.tagPrefix handle pre)
  else
    skipWhile (fun c => !isLineEnd c)
    pure .other

/-- Reads a directive line. -/
def scanDirective : ScanM Unit := do
  let start ← mark
  forward 1
  let name ← scanDirectiveName start
  let value ← scanDirectiveValue start name
  let stop ← mark
  skipWhile (· == ' ')
  if (← peek) == '#' then skipWhile (fun c => !isLineEnd c)
  let c ← peek
  if !isLineEnd c then
    fail (some "while scanning a directive") (some start)
      ("expected a comment or a line break, but found " ++ shown c)
  discard scanLineBreak
  push (.directive name value) start stop

def checkPlain : ScanM Bool := do
  let c ← peek
  let d ← peekAt 1
  let flow := (← get).flowLevel != 0
  pure (!(isBlankOrEnd c || "-?:,[]\x7b\x7d#&*!|>\x27\"%@\x60".contains c) ||
    (!isBlankOrEnd d && (c == '-' || (!flow && (c == '?' || c == ':')))))

def insertAt (number : Nat) (t : Marked) : ScanM Unit :=
  modify fun s => { s with queue := s.queue.insertIdxIfInBounds (number - s.taken) t }

/-- Produces the next tokens. -/
def fetchMore : ScanM Unit := do
  scanToNextToken
  staleKeys
  unwindIndent (← get).column
  let c ← peek
  let s ← get
  let flow := s.flowLevel != 0
  let next ← peekAt 1
  let blankNext := isBlankOrEnd next
  if c == '\x00' then
    unwindIndent (-1)
    removeSimpleKey
    modify fun s => { s with allowSimpleKey := false, simpleKeys := [] }
    pushHere .streamEnd
    modify fun s => { s with done := true }
  else if c == '%' && s.column == 0 then
    unwindIndent (-1)
    removeSimpleKey
    modify fun s => { s with allowSimpleKey := false }
    scanDirective
  else if (c == '-' || c == '.') && s.column == 0 &&
      (← prefixText 3) == String.ofList [c, c, c] && isBlankOrEnd (← peekAt 3) then
    unwindIndent (-1)
    removeSimpleKey
    modify fun s => { s with allowSimpleKey := false }
    let m ← mark
    forward 3
    push (if c == '-' then .documentStart else .documentEnd) m (← mark)
  else if c == '[' || c == '{' then
    saveSimpleKey
    modify fun s => { s with flowLevel := s.flowLevel + 1, allowSimpleKey := true }
    pushIndicator (if c == '[' then .flowSequenceStart else .flowMappingStart)
  else if c == ']' || c == '}' then
    removeSimpleKey
    modify fun s => { s with flowLevel := s.flowLevel - 1, allowSimpleKey := false }
    pushIndicator (if c == ']' then .flowSequenceEnd else .flowMappingEnd)
  else if c == ',' then
    modify fun s => { s with allowSimpleKey := true }
    removeSimpleKey
    pushIndicator .flowEntry
  else if c == '-' && blankNext then
    if !flow then
      if !s.allowSimpleKey then fail none none "sequence entries are not allowed here"
      if ← addIndent s.column then pushHere .blockSequenceStart
    modify fun s => { s with allowSimpleKey := true }
    removeSimpleKey
    pushIndicator .blockEntry
  else if c == '?' && (flow || blankNext) then
    if !flow then
      if !s.allowSimpleKey then fail none none "mapping keys are not allowed here"
      if ← addIndent s.column then pushHere .blockMappingStart
    modify fun s => { s with allowSimpleKey := !flow }
    removeSimpleKey
    pushIndicator .key
  else if c == ':' && (flow || blankNext) then
    match s.simpleKeys.find? (·.1 == s.flowLevel) with
    | some (_, k) =>
      modify fun s => { s with simpleKeys := s.simpleKeys.filter (·.1 != s.flowLevel) }
      insertAt k.tokenNumber ⟨.key, k.mark, k.mark⟩
      if !flow then
        if ← addIndent k.mark.column then
          insertAt k.tokenNumber ⟨.blockMappingStart, k.mark, k.mark⟩
      modify fun s => { s with allowSimpleKey := false }
    | none =>
      if !flow then
        if !s.allowSimpleKey then fail none none "mapping values are not allowed here"
        if ← addIndent s.column then pushHere .blockMappingStart
      modify fun s => { s with allowSimpleKey := !flow }
      removeSimpleKey
    pushIndicator .value
  else if c == '*' || c == '&' then
    saveSimpleKey
    modify fun s => { s with allowSimpleKey := false }
    scanAnchor (c == '*')
  else if c == '!' then
    saveSimpleKey
    modify fun s => { s with allowSimpleKey := false }
    scanTag
  else if (c == '|' || c == '>') && !flow then
    modify fun s => { s with allowSimpleKey := true }
    removeSimpleKey
    scanBlockScalar (c == '>')
  else if c == '\'' || c == '"' then
    saveSimpleKey
    modify fun s => { s with allowSimpleKey := false }
    scanFlowScalar (c == '"')
  else if ← checkPlain then
    saveSimpleKey
    modify fun s => { s with allowSimpleKey := false }
    scanPlain
  else
    fail (some "while scanning for the next token") none
      ("found character " ++ shown c ++ " that cannot start any token")

def needMore : ScanM Bool := do
  let s ← get
  if s.done then return false
  if s.queue.isEmpty then return true
  staleKeys
  let s ← get
  let next := (s.simpleKeys.map (·.2.tokenNumber)).min?
  pure (next == some s.taken)

def settle : ScanM Unit := do
  let rec go : Nat → ScanM Unit
    | 0 => pure ()
    | n + 1 => do
      if ← needMore then
        fetchMore
        go n
  go ((← get).buffer.size * 2 + 8)

def peekToken : ScanM Marked := do
  settle
  pure ((← get).queue[0]?.getD ⟨.streamEnd, ← mark, ← mark⟩)

def nextToken : ScanM Marked := do
  let t ← peekToken
  modify fun s => { s with queue := s.queue.extract 1 s.queue.size, taken := s.taken + 1 }
  pure t

end Scanner

end Weave.Yaml
