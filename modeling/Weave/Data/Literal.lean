import Weave.Data.Value
import Weave.Number.Decimal
import Weave.Text.Printable
import Weave.Text.Surrogate

/-! # Values written as literals

Reports quote the values they are about as literals: `None`, `True` and `False`;
integers in decimal; binary64 numbers with their shortest digits, positional for point
exponents in `(-4, 16]` and then always with a point; texts in single quotes, or in
double quotes when they hold a single quote and no double quote; lists in brackets and
mappings in braces, their items parted by `, `; tuples in parentheses, with a comma after
a single item; sets in braces, the empty set as `set()`; byte strings as `b` and a quoted
text of their bytes, a byte outside printable ASCII written `\x` with two digits; dates
and times as the calls that make them, `datetime.date(2001, 12, 14)`; a list or mapping
met again inside itself as `[...]` or `{...}`. Inside quotes the backslash
and the quote are escaped, tab, line feed and carriage return are `\t`, `\n` and `\r`, and other
characters that are not printable are written by their code in hexadecimal: `\x` with
two digits up to `0xff`, `\u` with four in the basic plane and `\U` with eight beyond; the
stand-in of a lone surrogate is written as that surrogate, `\u` with four.
`Value.display` is the same, except that a text stands for itself and a date or time is
written in ISO 8601 form.
-/

namespace Weave

def Value.numberStyle : Decimal.DecimalStyle :=
  ⟨-4, 16, true, 2, "inf", "nan"⟩

def hexDigits (width n : Nat) : String :=
  let ds := Nat.toDigits 16 n
  String.ofList (List.replicate (width - ds.length) '0' ++ ds)

/-- How a character stands inside a quoted text with quote `q`. -/
def quotedChar (q c : Char) : String :=
  if c == q || c == '\\' then String.ofList ['\\', c]
  else if c == '\t' then "\\t"
  else if c == '\n' then "\\n"
  else if c == '\r' then "\\r"
  else if Text.isPrintable c then String.singleton c
  else
    let n := (Text.surrogate? c).getD c.toNat
    if n ≤ 0xff then "\\x" ++ hexDigits 2 n
    else if n ≤ 0xffff then "\\u" ++ hexDigits 4 n
    else "\\U" ++ hexDigits 8 n

def quoteText (s : String) : String :=
  let q := if s.contains '\'' && !s.contains '"' then '"' else '\''
  String.singleton q ++ String.join (s.toList.map (quotedChar q)) ++ String.singleton q

def quotedByte (q : Char) (b : UInt8) : String :=
  let c := Char.ofNat b.toNat
  if c == q || c == '\\' then String.ofList ['\\', c]
  else if c == '\t' then "\\t"
  else if c == '\n' then "\\n"
  else if c == '\r' then "\\r"
  else if b < 0x20 || b ≥ 0x7f then "\\x" ++ hexDigits 2 b.toNat
  else String.singleton c

def quoteBytes (data : List UInt8) : String :=
  let q := if data.contains 0x27 && !data.contains 0x22 then '"' else '\''
  "b" ++ String.singleton q ++ String.join (data.map (quotedByte q)) ++ String.singleton q

namespace Value

/-- A tree of values written as a literal; a collection of a heap, which a tree does not
hold, is written as nothing. -/
def render : Value → String
  | null => "None"
  | bool true => "True"
  | bool false => "False"
  | int n => toString n
  | float x => numberStyle.render x
  | str s => quoteText s
  | list items => "[" ++ ", ".intercalate (items.attach.map fun ⟨v, _⟩ => render v) ++ "]"
  | dict entries =>
    "\x7b" ++ ", ".intercalate (entries.attach.map fun ⟨(k, v), _⟩ =>
      render k ++ ": " ++ render v) ++ "\x7d"
  | bytes data => quoteBytes data
  | tuple [v] => "(" ++ render v ++ ",)"
  | tuple items => "(" ++ ", ".intercalate (items.attach.map fun ⟨v, _⟩ => render v) ++ ")"
  | recursive isMapping => if isMapping then "\x7b...\x7d" else "[...]"
  | reference _ | cyclic .. => ""
  | set [] => "set()"
  | date y m d => "datetime.date(" ++ ", ".intercalate ([y, m, d].map toString) ++ ")"
  | dateTime y m d h i s u offset =>
    let fields := [y, m, d, h, i] ++ (if u != 0 then [s, u] else if s != 0 then [s] else [])
    let zone := match offset with
      | none => ""
      | some 0 => ", tzinfo=datetime.timezone.utc"
      | some o => ", tzinfo=datetime.timezone(" ++ deltaLiteral o ++ ")"
    "datetime.datetime(" ++ ", ".intercalate (fields.map toString) ++ zone ++ ")"
  | set items => "\x7b" ++ ", ".intercalate (items.attach.map fun ⟨v, _⟩ => render v) ++ "\x7d"
termination_by v => sizeOf v
decreasing_by
  all_goals simp_wf
  · have := List.sizeOf_lt_of_mem ‹_›
    omega
  · have h := List.sizeOf_lt_of_mem ‹_›
    simp at h
    omega
  · have h := List.sizeOf_lt_of_mem ‹_›
    simp at h
    omega
  · omega
  · have := List.sizeOf_lt_of_mem ‹_›
    omega
  · have := List.sizeOf_lt_of_mem ‹_›
    omega

def literal (v : Value) : String :=
  render v.expand

def dateText (y m d : Nat) : String :=
  zeroPadded 4 y ++ "-" ++ zeroPadded 2 m ++ "-" ++ zeroPadded 2 d

def display : Value → String
  | str s => s
  | date y m d => dateText y m d
  | dateTime y m d h i s u offset =>
    dateText y m d ++ " " ++ zeroPadded 2 h ++ ":" ++ zeroPadded 2 i ++ ":" ++ zeroPadded 2 s ++
      (if u != 0 then "." ++ zeroPadded 6 u else "") ++ (offset.map offsetText).getD ""
  | v => v.literal

end Value

end Weave
