import Weave.Number.Reading
import Weave.Text.Surrogate

/-! # Reading JSON

The strict JSON grammar over the blanks space, tab, line feed and carriage return,
widened by the constants `NaN`, `Infinity` and `-Infinity`. Numbers without a fraction or
exponent are integers of any size; others are rounded to binary64. A `\u` escape of a
high surrogate followed by one of a low surrogate stands for one character; any other
surrogate is held as its stand-in (`Weave.Text.Surrogate`). In an object
a repeated key keeps its first place and takes its last value.
-/

namespace Weave.Json

def maxNesting : Nat := 990

/-- Why reading a JSON text stops: it is no JSON, or reading it meets a fault. -/
inductive Stop where
  | malformed
  | fault (f : Fault)

def isBlank (c : Char) : Bool :=
  c == ' ' || c == '\t' || c == '\n' || c == '\r'

def hexValue (c : Char) : Option Nat :=
  if '0' ≤ c && c ≤ '9' then some (c.toNat - '0'.toNat)
  else if 'a' ≤ c && c ≤ 'f' then some (c.toNat - 'a'.toNat + 10)
  else if 'A' ≤ c && c ≤ 'F' then some (c.toNat - 'A'.toNat + 10)
  else none

def hex4 (a b c d : Char) : Option Nat := do
  let a ← hexValue a
  let b ← hexValue b
  let c ← hexValue c
  let d ← hexValue d
  pure (((a * 16 + b) * 16 + c) * 16 + d)

def charOfCode (n : Nat) : Char :=
  Text.ofCode n

/-- The character a one-letter escape stands for. -/
def escaped : Char → Option Char
  | '"' => some '"'
  | '\\' => some '\\'
  | '/' => some '/'
  | 'b' => some '\x08'
  | 'f' => some '\x0c'
  | 'n' => some '\n'
  | 'r' => some '\r'
  | 't' => some '\t'
  | _ => none

set_option linter.unusedVariables false in
/-- Reads the rest of a string after its opening quote: its characters, reversed after
`acc`, and what follows the closing quote. -/
def readString (acc : List Char) : List Char → Option (String × List Char)
  | [] => none
  | '"' :: rest => some (String.ofList acc.reverse, rest)
  | '\\' :: 'u' :: a :: b :: c :: d :: rest =>
    match hex4 a b c d with
    | none => none
    | some hi =>
      if 0xd800 ≤ hi && hi ≤ 0xdbff then
        match hm : rest with
        | '\\' :: 'u' :: e :: f :: g :: h :: more =>
          match hex4 e f g h with
          | some lo =>
            if 0xdc00 ≤ lo && lo ≤ 0xdfff then
              readString (Char.ofNat (0x10000 + (hi - 0xd800) * 0x400 + (lo - 0xdc00)) :: acc) more
            else readString (charOfCode hi :: acc) rest
          | none => readString (charOfCode hi :: acc) rest
        | _ => readString (charOfCode hi :: acc) rest
      else readString (charOfCode hi :: acc) rest
  | '\\' :: e :: rest =>
    match escaped e with
    | some c => readString (c :: acc) rest
    | none => none
  | c :: rest => if c.toNat < 0x20 then none else readString (c :: acc) rest
termination_by l => l.length
decreasing_by all_goals (try subst hm); all_goals simp; all_goals omega

/-- Reads a number whose sign has been read: digits, an optional fraction and an
optional exponent. An integer may have at most `maxTextDigits` digits. -/
def readNumber (negative : Bool) (cs : List Char) : Except Stop (Value × List Char) :=
  let intPart := cs.takeWhile Char.isDigit
  let afterInt := cs.dropWhile Char.isDigit
  if intPart.isEmpty || (intPart.length > 1 && intPart.head? == some '0') then
    if intPart.head? == some '0' then .ok (.int 0, cs.drop 1) else .error .malformed
  else
    let (frac, afterFrac) :=
      match afterInt with
      | '.' :: d :: r =>
        if d.isDigit then (some ((d :: r).takeWhile Char.isDigit), (d :: r).dropWhile Char.isDigit)
        else (none, afterInt)
      | _ => (none, afterInt)
    let (expo, rest) :=
      match afterFrac with
      | e :: r =>
        if e == 'e' || e == 'E' then
          let (neg, r') := match r with
            | '-' :: r' => (true, r')
            | '+' :: r' => (false, r')
            | r' => (false, r')
          let ds := r'.takeWhile Char.isDigit
          if ds.isEmpty then (none, afterFrac)
          else (some (if neg then -(digitsValue ds : Int) else digitsValue ds), r'.dropWhile Char.isDigit)
        else (none, afterFrac)
      | [] => (none, afterFrac)
    match frac, expo with
    | none, none =>
      if intPart.length > maxTextDigits then .error (.fault (.tooManyDigits intPart.length))
      else
        let n : Int := digitsValue intPart
        .ok (.int (if negative then -n else n), rest)
    | _, _ =>
      let fd := frac.getD []
      let m := digitsValue (intPart ++ fd)
      let x := scientific m (expo.getD 0 - fd.length)
      .ok (.float (if negative then -x else x), rest)

def stringOr (r : Option (String × List Char)) : Except Stop (String × List Char) :=
  match r with
  | some p => .ok p
  | none => .error .malformed

mutual

/-- Reads one value after any blanks, inside `depth` containers. -/
def readValue : Nat → Nat → List Char → Except Stop (Value × List Char)
  | 0, _, _ => .error .malformed
  | fuel + 1, depth, cs =>
    match cs.dropWhile isBlank with
    | '{' :: rest =>
      if depth ≥ maxNesting then .error (.fault (.nestedTooDeep true))
      else match rest.dropWhile isBlank with
        | '}' :: rest' => .ok (.dict [], rest')
        | rest' => readEntries fuel (depth + 1) [] rest'
    | '[' :: rest =>
      if depth ≥ maxNesting then .error (.fault (.nestedTooDeep false))
      else match rest.dropWhile isBlank with
        | ']' :: rest' => .ok (.list [], rest')
        | rest' => readItems fuel (depth + 1) [] rest'
    | '"' :: rest => (stringOr (readString [] rest)).map fun (s, r) => (.str s, r)
    | 'n' :: 'u' :: 'l' :: 'l' :: rest => .ok (.null, rest)
    | 't' :: 'r' :: 'u' :: 'e' :: rest => .ok (.bool true, rest)
    | 'f' :: 'a' :: 'l' :: 's' :: 'e' :: rest => .ok (.bool false, rest)
    | 'N' :: 'a' :: 'N' :: rest => .ok (.float (0.0 / 0.0), rest)
    | 'I' :: 'n' :: 'f' :: 'i' :: 'n' :: 'i' :: 't' :: 'y' :: rest => .ok (.float (1.0 / 0.0), rest)
    | '-' :: 'I' :: 'n' :: 'f' :: 'i' :: 'n' :: 'i' :: 't' :: 'y' :: rest =>
      .ok (.float (-1.0 / 0.0), rest)
    | '-' :: rest => readNumber true rest
    | c :: rest => if c.isDigit then readNumber false (c :: rest) else .error .malformed
    | [] => .error .malformed

def readItems : Nat → Nat → List Value → List Char → Except Stop (Value × List Char)
  | 0, _, _, _ => .error .malformed
  | fuel + 1, depth, acc, cs => do
    let (v, rest) ← readValue fuel depth cs
    match rest.dropWhile isBlank with
    | ',' :: rest' => readItems fuel depth (v :: acc) rest'
    | ']' :: rest' => .ok (.list (v :: acc).reverse, rest')
    | _ => .error .malformed

/-- Reads the entries of an object after its opening brace, `acc` holding those read. -/
def readEntries : Nat → Nat → List (Value × Value) → List Char → Except Stop (Value × List Char)
  | 0, _, _, _ => .error .malformed
  | fuel + 1, depth, acc, cs =>
    match cs.dropWhile isBlank with
    | '"' :: rest => do
      let (k, rest') ← stringOr (readString [] rest)
      match rest'.dropWhile isBlank with
      | ':' :: rest'' =>
        let (v, r) ← readValue fuel depth rest''
        let acc' := Value.store acc (.str k) v
        match r.dropWhile isBlank with
        | ',' :: r' => readEntries fuel depth acc' r'
        | '}' :: r' => .ok (.dict acc', r')
        | _ => .error .malformed
      | _ => .error .malformed
    | _ => .error .malformed

end

def parse (s : String) : Except Fault (Option Value) :=
  let cs := s.toList
  match readValue (2 * cs.length + 2) 0 cs with
  | .ok (v, rest) => .ok (if (rest.dropWhile isBlank).isEmpty then some v else none)
  | .error .malformed => .ok none
  | .error (.fault f) => .error f

def read? (s : String) : Option Value :=
  match parse s with
  | .ok v => v
  | .error _ => none

end Weave.Json
