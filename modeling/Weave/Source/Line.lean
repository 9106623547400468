import Weave.Fault

/-! # Source lines

A source text is a sequence of physical lines: the pieces between line feeds, each
without one trailing carriage return, where the empty piece after a final line feed is no
line, so the empty text has none. A classified line is one of them with its kind,
comment or code, and its number counted from one.
-/

namespace Weave

/-- Whether a line is prose or code. -/
inductive LineKind where
  | comment
  | code
deriving DecidableEq, Repr

namespace LineKind

def name : LineKind → String
  | comment => "comment"
  | code => "code"

def ofValue : Value → Except Fault LineKind
  | .str "comment" => .ok comment
  | .str "code" => .ok code
  | v => .error (.notLineKind v)

end LineKind

/-- A classified physical line: its kind, its text without the terminator, and its
number. -/
structure SourceLine where
  kind : LineKind
  text : String
  number : Int
deriving DecidableEq, Repr

def splitLine (cs : List Char) : List Char × List Char :=
  (cs.takeWhile (· != '\n'), (cs.dropWhile (· != '\n')).drop 1)

def dropReturn (cs : List Char) : List Char :=
  if cs.getLast? == some '\r' then cs.dropLast else cs

set_option linter.unusedVariables false in
def physicalLinesOf (cs : List Char) : List String :=
  if h : cs = [] then []
  else String.ofList (dropReturn (splitLine cs).1) :: physicalLinesOf (splitLine cs).2
termination_by cs.length
decreasing_by
  have := (@List.dropWhile_suffix _ cs (· != '\n')).length_le
  have : cs.length ≠ 0 := fun e => h (List.length_eq_zero_iff.1 e)
  simp only [splitLine, List.length_drop]
  omega

def physicalLines (s : String) : List String :=
  physicalLinesOf s.toList

end Weave
