import Weave.Source.Lexer

/-! # Tokenizing from a buffered reader

A source reaches the tokenizer as a stream read in pieces: each read of the stream asks
for a number of characters and gives the next piece of the text, and the empty piece
once the text is used up. A stream is taken here as the pieces its reads give; an
in-memory text read `k` characters at a time gives `textPieces k`.
-/

namespace Weave

open Weave.Text

/-- A buffered character reader over a stream given by the pieces its reads return. -/
structure CharReader where
  buffer : List Char
  pos : Nat
  pieces : List (List Char)
  line : Nat

namespace CharReader

def start (pieces : List (List Char)) : CharReader :=
  ⟨[], 0, pieces, 1⟩

def rest (r : CharReader) : List Char :=
  r.buffer.drop r.pos ++ r.pieces.flatten

def fill (r : CharReader) : CharReader × Bool :=
  if r.pos < r.buffer.length then (r, true)
  else
    match r.pieces with
    | [] => ({ r with buffer := [], pos := 0 }, false)
    | p :: ps => ({ r with buffer := p, pos := 0, pieces := ps }, !p.isEmpty)

def peek (r : CharReader) : CharReader × Option Char :=
  let f := r.fill
  (f.1, if f.2 then f.1.buffer[f.1.pos]? else none)

def read (r : CharReader) : CharReader × Option Char :=
  let f := r.fill
  if f.2 then
    match f.1.buffer[f.1.pos]? with
    | some c => ({ f.1 with pos := f.1.pos + 1, line := if c == '\n' then f.1.line + 1 else f.1.line }, some c)
    | none => (f.1, none)
  else (f.1, none)

def nextIs (r : CharReader) (c : Char) : CharReader × Bool :=
  (r.peek.1, r.peek.2 == some c)

theorem rest_fill (r : CharReader) : r.fill.1.rest = r.rest := by
  unfold fill
  split
  · rfl
  · have hDrop : r.buffer.drop r.pos = [] := List.drop_eq_nil_of_le (by omega)
    split <;> simp_all [rest]

theorem rest_peek (r : CharReader) : r.peek.1.rest = r.rest :=
  rest_fill r

theorem rest_nextIs (r : CharReader) (c : Char) : (r.nextIs c).1.rest = r.rest :=
  rest_peek r

theorem rest_of_read_some {r r' : CharReader} {c : Char} (h : r.read = (r', some c)) :
    r.rest = c :: r'.rest := by
  rw [← rest_fill r]
  unfold read at h
  generalize r.fill = f at h
  obtain ⟨q, ready⟩ := f
  cases ready with
  | false => simp at h
  | true =>
    simp only [↓reduceIte] at h
    split at h
    · next c' hc =>
      simp only [Prod.mk.injEq, Option.some.injEq] at h
      obtain ⟨rfl, rfl⟩ := h
      obtain ⟨hLt, hGet⟩ := List.getElem?_eq_some_iff.1 hc
      simp only [rest]
      rw [List.drop_eq_getElem_cons hLt, hGet, List.cons_append]
    · simp at h

theorem rest_read_length_le (r : CharReader) : r.read.1.rest.length ≤ r.rest.length := by
  match h : r.read with
  | (r', some c) => rw [rest_of_read_some h]; simp
  | (r', none) =>
    rw [← rest_fill r]
    unfold read at h
    generalize r.fill = f at h
    obtain ⟨q, ready⟩ := f
    cases ready <;> simp only [Bool.false_eq_true, ↓reduceIte] at h
    · cases h; exact Nat.le_refl _
    · split at h <;> simp_all

def nextAfter (r : CharReader) (c first next : Char) : CharReader × Bool :=
  if c == first then r.nextIs next else (r, false)

theorem rest_nextAfter (r : CharReader) (c first next : Char) :
    (r.nextAfter c first next).1.rest = r.rest := by
  unfold nextAfter
  split
  · exact rest_nextIs r next
  · rfl

/-- What the character `c` just consumed opens. Where `c` alone does not decide it, the
next character is looked at, in the order the rules are tried: `@` then `"`, then `/`
and `*`, then `/` and `/`. -/
def opening (r : CharReader) (c : Char) : CharReader × Opening :=
  if c == '\n' then (r, .lineFeed)
  else if isBlank c then (r, .blank)
  else if c == '"' then (r, .string)
  else
    let verbatim := r.nextAfter c '@' '"'
    if verbatim.2 then (verbatim.1, .verbatim)
    else if c == '\'' then (verbatim.1, .char)
    else
      let block := verbatim.1.nextAfter c '/' '*'
      if block.2 then (block.1, .blockComment)
      else
        let line := block.1.nextAfter c '/' '/'
        if line.2 then (line.1, .lineComment)
        else if isBracket c then (line.1, .bracket)
        else (line.1, .wordChar)

theorem rest_opening (r : CharReader) (c : Char) : (r.opening c).1.rest = r.rest := by
  have h₁ := rest_nextAfter r c '@' '"'
  have h₂ := rest_nextAfter (r.nextAfter c '@' '"').1 c '/' '*'
  have h₃ := rest_nextAfter ((r.nextAfter c '@' '"').1.nextAfter c '/' '*').1 c '/' '/'
  unfold opening
  simp only [apply_ite Prod.fst, apply_ite CharReader.rest, h₃, h₂, h₁, ite_self]

set_option linter.unusedVariables false in
/-- Gathers a literal through the first `close` that no backslash escapes, appending each
character to `token`; `escaped` tells whether the last character gathered escapes the
next. `none` when the stream ends first. -/
def untilLoop (close : Char) (escaped : Bool) (token : List Char) (r : CharReader) :
    Option (List Char × CharReader) :=
  match h : r.read with
  | (_, none) => none
  | (r', some c) =>
    if c == close && !escaped then some (token ++ [c], r')
    else untilLoop close (c == '\\' && !escaped) (token ++ [c]) r'
termination_by r.rest.length
decreasing_by rw [rest_of_read_some h]; simp

def chompUntil (close : Char) (token : List Char) (line : Nat) (r : CharReader) :
    Except Fault (List Char × CharReader) :=
  match untilLoop close false token r with
  | some done => .ok done
  | none => .error (.unterminatedLiteral (String.ofList token) line "")

set_option linter.unusedVariables false in
/-- Gathers a block comment opened by `token` through the first `*/`. The `*` must come
after the opening `/*`, so the comment is longer than three characters when it closes.
A comment that the stream ends first is refused, with the line `line` it opened on. -/
def chompBlock (token : List Char) (line : Nat) (r : CharReader) :
    Except Fault (List Char × CharReader) :=
  match h : r.read with
  | (_, none) => .error (.unterminatedLiteral "/*" line "")
  | (r', some c) =>
    if c == '/' && (token ++ [c]).length > 3 && token.getLast? == some '*' then .ok (token ++ [c], r')
    else chompBlock (token ++ [c]) line r'
termination_by r.rest.length
decreasing_by rw [rest_of_read_some h]; simp

def trimLineEnd (token : List Char) : List Char :=
  (token.reverse.dropWhile fun c => c == '\r' || c == '\n').reverse

set_option linter.unusedVariables false in
def chompLine (token : List Char) (r : CharReader) : List Char × CharReader :=
  match h : r.read with
  | (r', none) => (trimLineEnd token, r')
  | (r', some c) =>
    if c == '\n' then (trimLineEnd token, r')
    else chompLine (token ++ [c]) r'
termination_by r.rest.length
decreasing_by rw [rest_of_read_some h]; simp

theorem rest_untilLoop_length_le {close : Char} {escaped : Bool} {token t : List Char}
    {r r' : CharReader} (h : untilLoop close escaped token r = some (t, r')) :
    r'.rest.length ≤ r.rest.length := by
  fun_induction untilLoop close escaped token r with
  | case1 => simp at h
  | case2 escaped token r q c hRead hStop =>
    obtain ⟨-, rfl⟩ := Prod.mk.inj (Option.some.inj h)
    rw [rest_of_read_some hRead]
    simp
  | case3 escaped token r q c hRead hGo ih =>
    rw [rest_of_read_some hRead]
    have := ih h
    simp only [List.length_cons]
    omega

theorem rest_chompUntil_length_le {close : Char} {token t : List Char} {line : Nat}
    {r r' : CharReader} (h : chompUntil close token line r = .ok (t, r')) :
    r'.rest.length ≤ r.rest.length := by
  unfold chompUntil at h
  split at h
  · next done hLoop =>
    cases h
    exact rest_untilLoop_length_le hLoop
  · cases h

theorem rest_chompBlock_length_le {token t : List Char} {line : Nat} {r r' : CharReader}
    (h : chompBlock token line r = .ok (t, r')) : r'.rest.length ≤ r.rest.length := by
  fun_induction chompBlock token line r with
  | case1 => cases h
  | case2 token r q c hRead hStop =>
    cases h
    rw [rest_of_read_some hRead]
    simp
  | case3 token r q c hRead hGo ih =>
    rw [rest_of_read_some hRead]
    have := ih h
    simp only [List.length_cons]
    omega

theorem rest_chompLine_length_le (token : List Char) (r : CharReader) :
    (chompLine token r).2.rest.length ≤ r.rest.length := by
  fun_induction chompLine token r with
  | case1 token r q hRead =>
    have := rest_read_length_le r
    rw [hRead] at this
    exact this
  | case2 token r q c hRead hEnd =>
    rw [rest_of_read_some hRead]
    simp
  | case3 token r q c hRead hGo ih =>
    rw [rest_of_read_some hRead]
    simp only [List.length_cons]
    omega

end CharReader

namespace Token

open CharReader

def pushWord (tokens : Array Token) (word : List Char) : Array Token :=
  if word.isEmpty then tokens else tokens.push ⟨.word, String.ofList word⟩

set_option linter.unusedVariables false in
/-- Tokenizes the rest of a reader's stream after the tokens `tokens`, with the word
characters `word` gathered and not yet pushed. -/
def tokenizeFrom (tokens : Array Token) (word : List Char) (r : CharReader) :
    Except Fault (Array Token) :=
  match h : r.read with
  | (_, none) => .ok (pushWord tokens word)
  | (r₁, some c) =>
    match ho : r₁.opening c with
    | (r₂, .lineFeed) => tokenizeFrom ((pushWord tokens word).push newline) [] r₂
    | (r₂, .blank) => tokenizeFrom (pushWord tokens word) [] r₂
    | (r₂, .string) =>
      match hc : chompUntil '"' [c] r₂.line r₂ with
      | .error e => .error e
      | .ok (t, r₃) => tokenizeFrom ((pushWord tokens word).push ⟨.string, String.ofList t⟩) [] r₃
    | (r₂, .verbatim) =>
      match hq : r₂.read with
      | (r₃, quote) =>
        match hc : chompUntil '"' (c :: quote.toList) r₃.line r₃ with
        | .error e => .error e
        | .ok (t, r₄) => tokenizeFrom ((pushWord tokens word).push ⟨.string, String.ofList t⟩) [] r₄
    | (r₂, .char) =>
      match hc : chompUntil '\'' [c] r₂.line r₂ with
      | .error e => .error e
      | .ok (t, r₃) => tokenizeFrom ((pushWord tokens word).push ⟨.char, String.ofList t⟩) [] r₃
    | (r₂, .blockComment) =>
      match hs : r₂.read with
      | (r₃, star) =>
        match hc : chompBlock (c :: star.toList) r₂.line r₃ with
        | .error e => .error e
        | .ok (t, r₄) =>
          tokenizeFrom ((pushWord tokens word).push ⟨.blockComment, String.ofList t⟩) [] r₄
    | (r₂, .lineComment) =>
      match hc : chompLine [c] r₂ with
      | (t, r₃) =>
        tokenizeFrom (((pushWord tokens word).push ⟨.lineComment, String.ofList t⟩).push newline) [] r₃
    | (r₂, .bracket) => tokenizeFrom ((pushWord tokens word).push ⟨.punctuation, String.singleton c⟩) [] r₂
    | (r₂, .wordChar) => tokenizeFrom tokens (word ++ [c]) r₂
termination_by r.rest.length
decreasing_by
  all_goals
    have hRest := rest_of_read_some h
    have hOpen := congrArg (fun p => p.1.rest) ho
    simp only [rest_opening] at hOpen
    rw [hRest, hOpen]
    simp only [List.length_cons]
  all_goals first
    | omega
    | (have hLen := rest_chompUntil_length_le hc; omega)
    | (have hLen := rest_chompLine_length_le [c] r₂; rw [hc] at hLen; dsimp only at hLen; omega)
    | (have hLen := rest_chompUntil_length_le hc; have hRead := rest_read_length_le r₂
       rw [hq] at hRead; dsimp only at hRead; omega)
    | (have hLen := rest_chompBlock_length_le hc; have hRead := rest_read_length_le r₂
       rw [hs] at hRead; dsimp only at hRead; omega)

def tokenizeStream (pieces : List (List Char)) : Except Fault (List Token) :=
  (tokenizeFrom #[] [] (CharReader.start pieces)).map Array.toList

end Token

set_option linter.unusedVariables false in
def textPieces (k : Nat) (cs : List Char) : List (List Char) :=
  if hk : 0 < k then
    match hc : cs with
    | [] => []
    | _ :: _ => cs.take k :: textPieces k (cs.drop k)
  else []
termination_by cs.length
decreasing_by simp only [List.length_drop, hc, List.length_cons]; omega

end Weave
