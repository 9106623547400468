import Weave.Fault
import Weave.Number.Reading

/-! # Type declarations

A declaration records a type name found in a source file: its kind (the keyword that
introduced it), the file and the line the name stands on. A declaration found in a source
has a text name and file and an integer line; one added by hand or read back from a
document keeps the document values it was given, of any sort. Its name and file are its
key in a registry.
-/

namespace Weave

/-- The keywords that introduce a type. -/
inductive DeclKind where
  | classDecl
  | structDecl
  | enumDecl
  | interfaceDecl
  | delegateDecl
deriving DecidableEq, Repr

namespace DeclKind

def keyword : DeclKind → String
  | classDecl => "class"
  | structDecl => "struct"
  | enumDecl => "enum"
  | interfaceDecl => "interface"
  | delegateDecl => "delegate"

def ofKeyword? : String → Option DeclKind
  | "class" => some classDecl
  | "struct" => some structDecl
  | "enum" => some enumDecl
  | "interface" => some interfaceDecl
  | "delegate" => some delegateDecl
  | _ => none

def ofValue : Value → Except Fault DeclKind
  | .str s => match ofKeyword? s with
    | some k => .ok k
    | none => .error (.notDeclKind (.str s))
  | v => .error (.notDeclKind v)

theorem ofKeyword?_keyword (k : DeclKind) : ofKeyword? k.keyword = some k := by
  cases k <;> rfl

end DeclKind

/-- A type declared in a source file. -/
structure Declaration where
  name : Value
  kind : DeclKind
  file : Value
  line : Value

namespace Declaration

def key (d : Declaration) : Value × Value :=
  (d.name, d.file)

def toValue (d : Declaration) : Value :=
  .dict [(.str "name", d.name), (.str "kind", .str d.kind.keyword),
    (.str "file", d.file), (.str "line", d.line)]

end Declaration

/-- The integer reading of a document value: integers stand for themselves, booleans
are 0 and 1, binary64 numbers are cut toward zero and texts are read as decimal literals
(`intOfText`). -/
def Value.toInteger : Value → Except Fault Int
  | .int n => .ok n
  | .bool b => .ok (if b then 1 else 0)
  | .float x =>
    match Binary.parts x with
    | .nan => .error .integerOfNaN
    | .infinite _ => .error .integerOfInfinity
    | .finite .. => .ok ((Binary.truncInt? x).getD 0)
  | .str s => intOfText s
  | v => .error (.notIntegerSort v.typeName)

def Value.index (v : Value) (k : String) : Except Fault Value :=
  match v with
  | .dict entries => match Value.field? entries k with
    | some x => .ok x
    | none => .error (.missingKey k)
  | .str _ => .error .textIndexedByText
  | .list _ => .error .listIndexedByText
  | v => .error (.notSubscriptable v.typeName)

def Value.hashable : Value → Bool
  | .list _ | .dict _ | .set _ | .recursive _ | .cyclic .. => false
  | _ => true

def Value.isNaN : Value → Bool
  | .float x => x != x
  | _ => false

def Value.samePart (a b : Value) : Bool :=
  a.sameKey b || (a.isNaN && b.isNaN)

def keyFault? (name file : Value) : Option Fault :=
  if !name.hashable then some (.unhashable name.typeName)
  else if !file.hashable then some (.unhashable file.typeName)
  else none

theorem keyFault?_str (n f : String) : keyFault? (.str n) (.str f) = none := rfl

namespace Declaration

def ofValue (v : Value) : Except Fault Declaration := do
  let name ← v.index "name"
  let kind ← DeclKind.ofValue (← v.index "kind")
  let file ← v.index "file"
  let line ← (← v.index "line").toInteger
  pure ⟨name, kind, file, .int line⟩

def clashes (d e : Declaration) : Bool :=
  d.name.samePart e.name && d.file.samePart e.file

end Declaration

end Weave
