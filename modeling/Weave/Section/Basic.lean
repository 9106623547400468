import Weave.Section.Directive
import Weave.Source.Line

/-! # Sections

A section is a maximal run of consecutive lines of one kind. A code section keeps its
lines as they are; a comment section keeps the prose of its lines that are not
directives, each cleaned of its indentation and comment markers. Sections laid end to
end cover every line once, and neighbouring sections differ in kind. A text without lines
has one empty section from line 1 to line 0.
-/

namespace Weave

open Weave.Text

/-- A run of comment lines or of code lines. A comment section has no code and code start
0. -/
structure Section where
  docsText : String
  codeText : String
  codeStartLine : Int
  startLine : Int
  endLine : Int
deriving DecidableEq, Repr

namespace Section

def hasCode (s : Section) : Bool :=
  s.codeStartLine > 0

def lineCount (s : Section) : Int :=
  s.endLine - s.startLine + 1

def empty : Section :=
  ⟨"", "", 0, 1, 0⟩

def toValue (s : Section) : Value :=
  .dict [(.str "docs_text", .str s.docsText), (.str "code_text", .str s.codeText),
    (.str "code_start_line", .int s.codeStartLine), (.str "start_line", .int s.startLine),
    (.str "end_line", .int s.endLine)]

end Section

def isCommentMarker (c : Char) : Bool :=
  c == ' ' || c == '\t' || c == '/' || c == '*'

def cleanCommentLine (text : String) : String :=
  let cleaned := String.ofList (text.toList.dropWhile isCommentMarker)
  let trimmed := trimBlanksRight cleaned
  if trimmed.endsWith "*/" then
    trimBlanksRight (String.ofList (trimmed.toList.take (trimmed.length - 2)))
  else cleaned

/-- The section of a nonempty run of lines of one kind, the first `first`. -/
def Section.ofRun (keywords : List String) (first : SourceLine) (rest : List SourceLine) :
    Section :=
  let run := first :: rest
  let last := (rest.getLast?).getD first
  match first.kind with
  | .comment =>
    let docs := (run.filter fun l => !isDirectiveLine keywords l.text).map
      fun l => cleanCommentLine l.text
    ⟨"\n".intercalate docs, "", 0, first.number, last.number⟩
  | .code => ⟨"", "\n".intercalate (run.map SourceLine.text), first.number, first.number, last.number⟩

def runsOf : List SourceLine → List (SourceLine × List SourceLine)
  | [] => []
  | l :: ls =>
    match runsOf ls with
    | (f, r) :: more => if f.kind == l.kind then (l, f :: r) :: more else (l, []) :: (f, r) :: more
    | [] => [(l, [])]

def sectionsOf (keywords : List String) (lines : List SourceLine) : List Section :=
  match runsOf lines with
  | [] => [Section.empty]
  | runs => runs.map fun (f, r) => Section.ofRun keywords f r

end Weave
