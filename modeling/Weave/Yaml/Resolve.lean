import Weave.Data.Literal

/-! # The implied types of plain YAML scalars

A plain scalar without a tag takes its type from its text. These are the forms each type
accepts: the booleans `yes`, `no`, `true`, `false`, `on`, `off` in three cases; floats
with a point, an exponent that needs a sign, sexagesimal parts, or `.inf` and `.nan`;
integers in binary, octal, decimal, hexadecimal and sexagesimal; `<<` for a merge key;
null as `~`, `null` or the empty text; timestamps; `=` for the value key; and `!`, `&`
and `*` for YAML's own syntax. Every other text is a string.
-/

namespace Weave.Yaml

def standardTag (name : String) : String :=
  "tag:yaml.org,2002:" ++ name

def allOf (p : Char → Bool) (cs : List Char) : Bool :=
  !cs.isEmpty && cs.all p

def isDecimal (c : Char) : Bool := '0' ≤ c && c ≤ '9'
def isDigitOrUnderscore (c : Char) : Bool := isDecimal c || c == '_'

def dropSign : List Char → List Char
  | '-' :: r | '+' :: r => r
  | r => r

def isSexagesimalDigit : List Char → Bool
  | [d] => isDecimal d
  | [a, d] => '0' ≤ a && a ≤ '5' && isDecimal d
  | _ => false

def isSexagesimalTail (cs : List Char) : Bool :=
  match cs with
  | ':' :: rest =>
    let parts := rest.splitOn ':'
    parts.all isSexagesimalDigit
  | _ => false

def spanOf (p : Char → Bool) (cs : List Char) : List Char × List Char :=
  (cs.takeWhile p, cs.dropWhile p)

def isExponentOrEmpty : List Char → Bool
  | [] => true
  | e :: s :: ds => (e == 'e' || e == 'E') && (s == '-' || s == '+') && allOf isDecimal ds
  | _ => false

/-- Whether a plain text reads as an integer. -/
def looksInteger (s : String) : Bool :=
  let cs := dropSign s.toList
  match cs with
  | '0' :: 'b' :: r => allOf (fun c => c == '0' || c == '1' || c == '_') r
  | '0' :: 'x' :: r => allOf (fun c => c.isHexDigit || c == '_') r
  | ['0'] => true
  | '0' :: r => allOf (fun c => ('0' ≤ c && c ≤ '7') || c == '_') r
  | c :: r =>
    '1' ≤ c && c ≤ '9' &&
      (let tail := r.dropWhile isDigitOrUnderscore
       tail.isEmpty || isSexagesimalTail tail)
  | [] => false

/-- Whether a plain text reads as a floating-point number. -/
def looksFloat (s : String) : Bool :=
  let all := s.toList
  let special := ["inf", "Inf", "INF"].any fun w => dropSign all == ('.' :: w.toList)
  let nan := ["nan", "NaN", "NAN"].any fun w => all == ('.' :: w.toList)
  let cs := dropSign all
  let decimal :=
    match cs with
    | c :: r =>
      isDecimal c &&
        (let (_, rest) := spanOf isDigitOrUnderscore r
         match rest with
         | '.' :: f =>
           let (_, e) := spanOf isDigitOrUnderscore f
           isExponentOrEmpty e
         | ':' :: _ =>
           let groups := rest.takeWhile (· != '.')
           let frac := rest.dropWhile (· != '.')
           isSexagesimalTail groups &&
             (match frac with
              | '.' :: f => f.all isDigitOrUnderscore
              | _ => false)
         | _ => false)
    | _ => false
  let leadingPoint :=
    match all with
    | '.' :: c :: r =>
      isDecimal c && (let (_, e) := spanOf isDigitOrUnderscore r; isExponentOrEmpty e)
    | _ => false
  special || nan || decimal || leadingPoint

/-- The fields of a timestamp: a date, and a time of day with an optional fraction and
offset when there is one. -/
structure Timestamp where
  year : Nat
  month : Nat
  day : Nat
  time : Option (Nat × Nat × Nat)
  fraction : List Char
  zone : Option (Option (Bool × Nat × Nat))

def takeDigits (n : Nat) (l : List Char) : Option (Nat × List Char) :=
  let ds := l.take n
  if ds.length == n && ds.all isDecimal then
    some (ds.foldl (fun a d => a * 10 + (d.toNat - '0'.toNat)) 0, l.drop n)
  else none

def takeOneOrTwo (l : List Char) : Option (Nat × List Char) :=
  match l with
  | a :: b :: r => if isDecimal a && isDecimal b then takeDigits 2 l else
      if isDecimal a then some (a.toNat - '0'.toNat, b :: r) else none
  | _ => takeDigits 1 l

/-- The characters of a text that a pattern anchored at its end must match: all of them,
or all but a line feed that ends the text, since such an anchor also holds before a final
line feed. -/
def anchoredBody (s : String) : List Char :=
  let l := s.toList
  if l.getLast? == some '\n' then l.dropLast else l

/-- Reads a timestamp: `YYYY-MM-DD`, or a date with one- or two-digit month and day
followed by `T`, `t` or blanks and a time `H:MM:SS`, an optional fraction, and an optional
offset after blanks: `Z` or a sign with one- or two-digit hours and optional minutes. A
line feed may end the text. -/
def Timestamp.read? (s : String) : Option Timestamp := do
  let (year, r) ← takeDigits 4 (anchoredBody s)
  let r ← match r with | '-' :: r => some r | _ => none
  let (month, r) ← takeOneOrTwo r
  let r ← match r with | '-' :: r => some r | _ => none
  let (day, r) ← takeOneOrTwo r
  if r.isEmpty then
    return ⟨year, month, day, none, [], none⟩
  let r ← match r with
    | 'T' :: x | 't' :: x => some x
    | ' ' :: _ | '\t' :: _ => some (r.dropWhile fun c => c == ' ' || c == '\t')
    | _ => none
  let (hour, r) ← takeOneOrTwo r
  let r ← match r with | ':' :: r => some r | _ => none
  let (minute, r) ← takeDigits 2 r
  let r ← match r with | ':' :: r => some r | _ => none
  let (second, r) ← takeDigits 2 r
  let (fraction, r) := match r with
    | '.' :: f => (f.takeWhile isDecimal, f.dropWhile isDecimal)
    | _ => ([], r)
  let time := some (hour, minute, second)
  if r.isEmpty then
    return ⟨year, month, day, time, fraction, none⟩
  let r := r.dropWhile fun c => c == ' ' || c == '\t'
  match r with
  | ['Z'] => return ⟨year, month, day, time, fraction, some none⟩
  | sgn :: t =>
    if sgn != '-' && sgn != '+' then none
    let (zh, t) ← takeOneOrTwo t
    match t with
    | [] => return ⟨year, month, day, time, fraction, some (some (sgn == '-', zh, 0))⟩
    | ':' :: u =>
      let (zm, u) ← takeDigits 2 u
      if u.isEmpty then return ⟨year, month, day, time, fraction, some (some (sgn == '-', zh, zm))⟩
      else none
    | _ => none
  | [] => none

def looksTimestamp (s : String) : Bool :=
  match Timestamp.read? s with
  | some t => t.time.isSome || (anchoredBody s).length == 10
  | none => false

/-- The tag a plain scalar's text implies. Each form must match the whole text, or the text
less one final line feed; a text that is only a line feed implies no form. The texts `!`,
`&` and `*` imply the tag of YAML's own syntax, which no value is read by. -/
def impliedTag (text : String) : String :=
  let body := String.ofList (anchoredBody text)
  if text != "" && body == "" then standardTag "str"
  else if ["yes", "Yes", "YES", "no", "No", "NO", "true", "True", "TRUE", "false", "False",
      "FALSE", "on", "On", "ON", "off", "Off", "OFF"].contains body then standardTag "bool"
  else if looksFloat body then standardTag "float"
  else if looksInteger body then standardTag "int"
  else if body == "<<" then standardTag "merge"
  else if ["~", "null", "Null", "NULL", ""].contains body then standardTag "null"
  else if looksTimestamp text then standardTag "timestamp"
  else if body == "=" then standardTag "value"
  else if ["!", "&", "*"].contains body then standardTag "yaml"
  else standardTag "str"

end Weave.Yaml
