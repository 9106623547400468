import Weave.Fault
import Weave.Text.Blank
import Weave.Text.Digit

/-! # Reading numbers from text

The integer and floating-point readings of a text work on its *ASCII form*: characters
below 127 are kept, any other blank becomes a space, a decimal digit of any script becomes
the ASCII digit of its value, and the first other character becomes `?`, where the form
ends. Only ASCII blanks are then skipped around the number, so the controls `\x1c` to
`\x1f` are no blanks here.
-/

namespace Weave

def maxTextDigits : Nat := 4300

def asciiForm : List Char → List Char
  | [] => []
  | c :: cs =>
    if c.toNat < 127 then c :: asciiForm cs
    else if Text.isBlank c then ' ' :: asciiForm cs
    else match Text.digitValue? c with
      | some d => Char.ofNat (48 + d) :: asciiForm cs
      | none => ['?']

def isAsciiBlank (c : Char) : Bool :=
  c == ' ' || c == '\t' || c == '\n' || c == '\r' || c == '\x0b' || c == '\x0c'

def digitOfBase (base : Nat) (c : Char) : Option Nat :=
  let v :=
    if '0' ≤ c && c ≤ '9' then some (c.toNat - '0'.toNat)
    else if 'a' ≤ c && c ≤ 'z' then some (c.toNat - 'a'.toNat + 10)
    else if 'A' ≤ c && c ≤ 'Z' then some (c.toNat - 'A'.toNat + 10)
    else none
  v.filter (· < base)

/-- The digits at the front of a form and what follows them: digits of base `base` with
single underscores between them; `none` when an underscore is doubled or ends the run.
`afterUnderscore` says whether the character before was an underscore. -/
def scanDigits (base : Nat) (afterUnderscore : Bool) :
    List Char → Option (List Nat × List Char)
  | [] => if afterUnderscore then none else some ([], [])
  | c :: cs =>
    if c == '_' then
      if afterUnderscore then none else scanDigits base true cs
    else match digitOfBase base c with
      | some d => (scanDigits base false cs).map fun (ds, r) => (d :: ds, r)
      | none => if afterUnderscore then none else some ([], c :: cs)

def basePrefix? (base : Nat) : Option Char :=
  if base == 2 then some 'b' else if base == 8 then some 'o'
  else if base == 16 then some 'x' else none

/-- The integer a text reads as in base `base`. -/
def intOfTextIn (base : Nat) (s : String) : Except Fault Int :=
  let invalid : Fault := .notIntegerInBase s base
  let cs := (asciiForm s.toList).dropWhile isAsciiBlank
  let (neg, cs) := match cs with
    | '-' :: r => (true, r)
    | '+' :: r => (false, r)
    | r => (false, r)
  let cs := match cs, basePrefix? base with
    | '0' :: c :: r, some p =>
      if c.toLower == p then (match r with | '_' :: r' => r' | r' => r') else cs
    | _, _ => cs
  if cs.head? == some '_' then .error invalid
  else match scanDigits base false cs with
    | none => .error invalid
    | some (ds, rest) =>
      if base == 10 && ds.length > maxTextDigits then .error (.tooManyDigits ds.length)
      else if ds.isEmpty || !(rest.dropWhile isAsciiBlank).isEmpty then .error invalid
      else
        let n := ds.foldl (fun a d => a * base + d) 0
        .ok (if neg then -(n : Int) else n)

def intOfText (s : String) : Except Fault Int :=
  intOfTextIn 10 s

def digitsValue (ds : List Char) : Nat :=
  ds.foldl (fun n d => n * 10 + (d.toNat - '0'.toNat)) 0

def scientific (m : Nat) (e : Int) : Float :=
  if m = 0 then 0
  else if e + (Nat.toDigits 10 m).length > 400 then Float.ofScientific 1 false 400
  else if e + (Nat.toDigits 10 m).length < -400 then 0
  else if 0 ≤ e then Float.ofScientific m false e.toNat
  else Float.ofScientific m true (-e).toNat

def isAsciiDigit (c : Char) : Bool :=
  '0' ≤ c && c ≤ '9'

def dropUnderscores : Char → List Char → Option (List Char)
  | prev, [] => if prev == '_' then none else some []
  | prev, c :: cs =>
    if c == '_' then
      if isAsciiDigit prev then dropUnderscores c cs else none
    else if prev == '_' && !isAsciiDigit c then none
    else (dropUnderscores c cs).map (c :: ·)

/-- The binary64 number a form without blanks around it spells: a sign, then an infinity
or NaN by name, or digits with an optional point and fraction, at least one digit, and an
optional exponent. -/
def floatOfForm? (cs : List Char) : Option Float :=
  let (neg, body) := match cs with
    | '-' :: r => (true, r)
    | '+' :: r => (false, r)
    | r => (false, r)
  let signed (x : Float) : Float := if neg then -x else x
  let word := String.ofList (body.map Char.toLower)
  let inf : Float := Float.ofScientific 1 false 400
  if word == "inf" || word == "infinity" then some (signed inf)
  else if word == "nan" then some (signed (inf - inf))
  else
    let intPart := body.takeWhile isAsciiDigit
    let r := body.dropWhile isAsciiDigit
    let (frac, r) := match r with
      | '.' :: f => (f.takeWhile isAsciiDigit, f.dropWhile isAsciiDigit)
      | _ => ([], r)
    let expo : Option Int := match r with
      | [] => some 0
      | e :: t =>
        if e == 'e' || e == 'E' then
          let (eneg, ds) := match t with
            | '-' :: d => (true, d)
            | '+' :: d => (false, d)
            | d => (false, d)
          if !ds.isEmpty && ds.all isAsciiDigit then
            let n : Int := digitsValue ds
            some (if eneg then -n else n)
          else none
        else none
    match expo with
    | some x =>
      if intPart.isEmpty && frac.isEmpty then none
      else some (signed (scientific (digitsValue (intPart ++ frac)) (x - frac.length)))
    | none => none

/-- The binary64 number a text reads as. -/
def floatOfText (s : String) : Except Fault Float :=
  let form := asciiForm s.toList
  let cleaned := if form.contains '_' then dropUnderscores '\x00' form else some form
  match cleaned with
  | none => .error (.notFloatText s)
  | some cs =>
    let trimmed := (cs.dropWhile isAsciiBlank).reverse.dropWhile isAsciiBlank |>.reverse
    match floatOfForm? trimmed with
    | some x => .ok x
    | none => .error (.notFloatText s)

def tooLongToWrite (n : Int) : Bool :=
  n.natAbs ≥ Binary.tenPow maxTextDigits

def Value.holdsLongInt : Value → Bool
  | .int n => tooLongToWrite n
  | .list vs | .tuple vs | .set vs => vs.attach.any fun ⟨v, _⟩ => v.holdsLongInt
  | .dict es => es.attach.any fun ⟨(k, v), _⟩ => k.holdsLongInt || v.holdsLongInt
  | .cyclic heap _ => heap.attach.any fun ⟨(_, v), _⟩ => v.holdsLongInt
  | _ => false
termination_by v => sizeOf v
decreasing_by
  all_goals simp_wf
  all_goals have h := List.sizeOf_lt_of_mem ‹_›
  all_goals try simp at h
  all_goals omega

def Value.shown (v : Value) : Except Fault String :=
  if v.holdsLongInt then .error .tooManyDigitsToWrite else .ok v.display

end Weave
