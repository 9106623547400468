import Weave.Fault

/-! # Positions in a YAML text and the reports that point at them

A YAML text is read as an array of characters closed by a NUL. A mark is a position in
it: an index, and a line and column counted from zero. A report names a context and a
problem, each with the mark it happened at; it is written with the line and column
counted from one and a snippet of the line at the mark, with a caret under the mark. A
snippet shows at most 36 characters on each side of the mark, cut with ` ... `.
-/

namespace Weave.Yaml

def textName : String := "<unicode string>"

/-- A position in the text. -/
structure Mark where
  index : Nat
  line : Nat
  column : Nat
deriving DecidableEq, Repr, Inhabited

def isLineEnd (c : Char) : Bool :=
  c == '\x00' || c == '\r' || c == '\n' || c == '\x85' || c == '\u2028' || c == '\u2029'

/-- The snippet of the line at a position, with a caret under it. -/
def snippet (buffer : Array Char) (pointer : Nat) : String :=
  let charAt (i : Nat) : Char := buffer.getD i '\x00'
  let rec back : Nat → Nat → Nat × Bool
    | 0, start => (start, false)
    | fuel + 1, start =>
      if start > 0 && !isLineEnd (charAt (start - 1)) then
        if pointer - (start - 1) > 36 then (start - 1 + 5, true) else back fuel (start - 1)
      else (start, false)
  let rec forth : Nat → Nat → Nat × Bool
    | 0, stop => (stop, false)
    | fuel + 1, stop =>
      if stop < buffer.size && !isLineEnd (charAt stop) then
        if stop + 1 - pointer > 36 then (stop + 1 - 5, true) else forth fuel (stop + 1)
      else (stop, false)
  let (start, cutHead) := back (pointer + 1) pointer
  let (stop, cutTail) := forth (buffer.size + 1) pointer
  let head := if cutHead then " ... " else ""
  let tail := if cutTail then " ... " else ""
  let body := String.ofList ((buffer.toList.drop start).take (stop - start))
  "    " ++ head ++ body ++ tail ++ "\n" ++
    String.ofList (List.replicate (4 + (pointer - start) + head.length) ' ') ++ "^"

def Mark.describe (buffer : Array Char) (m : Mark) : String :=
  "  in \"" ++ textName ++ "\", line " ++ toString (m.line + 1) ++ ", column " ++
    toString (m.column + 1) ++ ":\n" ++ snippet buffer m.index

/-- A report of a text that is no YAML document. -/
inductive YamlError where
  | unacceptable (code : Nat) (position : Nat)
  | marked (context : Option String) (contextMark : Option Mark) (problem : String)
      (problemMark : Option Mark)
  | fault (f : Fault)
deriving Inhabited

/-- The words of a report. -/
def YamlError.message (buffer : Array Char) : YamlError → String
  | .unacceptable code position =>
    let digits := Nat.toDigits 16 code
    "unacceptable character #x" ++ String.ofList (List.replicate (4 - digits.length) '0' ++ digits) ++
      ": special characters are not allowed\n  in \"" ++ textName ++ "\", position " ++
      toString position
  | .marked context contextMark problem problemMark =>
    let sameMark := match contextMark, problemMark with
      | some c, some p => c.line == p.line && c.column == p.column
      | _, _ => false
    let parts := context.toList ++
      (match contextMark with
        | some c => if sameMark then [] else [c.describe buffer]
        | none => []) ++
      [problem] ++ (problemMark.map (·.describe buffer)).toList
    "\n".intercalate parts
  | .fault f => f.message

/-- Why a YAML text gives no value: the worded report of a text that is no YAML, or a
failure outside YAML, such as a scalar that its type cannot read. -/
inductive LoadError where
  | rejected (message : String)
  | scalar (f : Fault)
deriving Inhabited

end Weave.Yaml
