import Weave.Data.Value
import Weave.Number.Decimal
import Weave.Text.Surrogate

/-! # Writing JSON

Values are written in ASCII: a character outside the printable ASCII range is a `\u`
escape with four lower-case hexadecimal digits, two escapes (a surrogate pair) above the
basic plane; the stand-in of a lone surrogate is the one escape of that surrogate. Numbers take their shortest digits, positional for point exponents in
`(-4, 16]`; the infinities and NaN are written `Infinity`, `-Infinity` and `NaN`. A
mapping key that is not text is written as the text of the scalar. A tuple is written as
a list; byte strings, sets, dates, times and collections that hold themselves have no
JSON form and are written as `null`. `Layout` says
whether the document is one line or indented.
-/

namespace Weave.Json

def numberStyle : Decimal.DecimalStyle :=
  ⟨-4, 16, true, 2, "Infinity", "NaN"⟩

def hex4Text (n : Nat) : String :=
  let digits := Nat.toDigits 16 n
  String.ofList (List.replicate (4 - digits.length) '0' ++ digits)

/-- The escape of one character inside a string. -/
def escapeChar (c : Char) : String :=
  match c with
  | '"' => "\\\""
  | '\\' => "\\\\"
  | '\n' => "\\n"
  | '\r' => "\\r"
  | '\t' => "\\t"
  | '\x08' => "\\b"
  | '\x0c' => "\\f"
  | c =>
    let n := (Text.surrogate? c).getD c.toNat
    if 0x20 ≤ n && n < 0x7f then String.singleton c
    else if n < 0x10000 then "\\u" ++ hex4Text n
    else
      let v := n - 0x10000
      "\\u" ++ hex4Text (0xd800 + v / 0x400) ++ "\\u" ++ hex4Text (0xdc00 + v % 0x400)

def quote (s : String) : String :=
  "\"" ++ String.join (s.toList.map escapeChar) ++ "\""

def keyText : Value → String
  | .str s => s
  | .int n => toString n
  | .float x => numberStyle.render x
  | .bool true => "true"
  | .bool false => "false"
  | .null => "null"
  | _ => ""

/-- The layout of a written document: one line, or nested lines indented by `step`
spaces per level. -/
inductive Layout where
  | oneLine
  | indented (step : Nat)

/-- Writes a value whose nesting level is `level`. -/
def writeAt (layout : Layout) (level : Nat) : Value → String
  | .null => "null"
  | .bool true => "true"
  | .bool false => "false"
  | .int n => toString n
  | .float x => numberStyle.render x
  | .str s => quote s
  | .bytes _ | .set _ | .date .. | .dateTime .. | .recursive _ | .reference _ | .cyclic .. =>
    "null"
  | .list [] | .tuple [] => "[]"
  | .dict [] => "\x7b\x7d"
  | .list items | .tuple items =>
    let parts := items.attach.map fun ⟨v, _⟩ => writeAt layout (level + 1) v
    match layout with
    | .oneLine => "[" ++ ", ".intercalate parts ++ "]"
    | .indented step =>
      let inner := "\n" ++ String.ofList (List.replicate (step * (level + 1)) ' ')
      let outer := "\n" ++ String.ofList (List.replicate (step * level) ' ')
      "[" ++ inner ++ ("," ++ inner).intercalate parts ++ outer ++ "]"
  | .dict entries =>
    let parts := entries.attach.map fun ⟨(k, v), _⟩ =>
      quote (keyText k) ++ ": " ++ writeAt layout (level + 1) v
    match layout with
    | .oneLine => "\x7b" ++ ", ".intercalate parts ++ "\x7d"
    | .indented step =>
      let inner := "\n" ++ String.ofList (List.replicate (step * (level + 1)) ' ')
      let outer := "\n" ++ String.ofList (List.replicate (step * level) ' ')
      "\x7b" ++ inner ++ ("," ++ inner).intercalate parts ++ outer ++ "\x7d"
termination_by v => sizeOf v
decreasing_by
  all_goals simp_wf
  · have := List.sizeOf_lt_of_mem ‹_›
    omega
  · have := List.sizeOf_lt_of_mem ‹_›
    omega
  · have h := List.sizeOf_lt_of_mem ‹_›
    simp at h
    omega

def write (layout : Layout) (v : Value) : String :=
  writeAt layout 0 v

end Weave.Json
