import Weave.Number.Reading
import Weave.Data.Items
import Weave.Section.Directive
import Weave.Text.Identifier

/-! # Run settings

The settings of a run: where the sources are, which extensions and directories count,
how sources are decoded, what to do on a failure, how much to log, which directive
keywords cut sections, and where the indexes go. Settings come from documents, so each
field holds whatever value was given; `Settings.validate` accepts them when the error
policy, the log level, the extensions and the directives are well formed, and reports
the first that is not.
-/

namespace Weave

/-- Where the indexes are written. -/
structure OutputSettings where
  indexDir : Value := .str "docs"
  sectionsFile : Value := .str "sections.json"
  typesFile : Value := .str "types.json"

/-- The settings of a run. -/
structure Settings where
  version : Value := .str "1.0"
  root : Value := .null
  extensions : Value := .list [.str ".cs"]
  skipDirs : Value := .list (["bin", "obj", ".git", ".vs", "packages", "node_modules"].map .str)
  encoding : Value := .str "utf-8"
  onError : Value := .str "abort"
  logLevel : Value := .str "WARNING"
  directives : Value := .list (defaultDirectives.map .str)
  output : OutputSettings := {}

def errorPolicies : List String := ["abort", "skip"]

def logLevels : List String := ["DEBUG", "INFO", "WARNING", "ERROR", "CRITICAL"]

/-- The capitals of a character when they are ASCII letters: the ASCII small letters,
the dotless i, the long s, the sharp s and the Latin ligatures of f, s and t. Any other
character is kept, and a character that is no capital ASCII letter names no level. -/
def asciiCapitals (c : Char) : List Char :=
  if 'a' ≤ c && c ≤ 'z' then [Char.ofNat (c.toNat - 32)]
  else match c.toNat with
    | 0x131 => ['I']
    | 0x17F => ['S']
    | 0xDF => ['S', 'S']
    | 0xFB00 => ['F', 'F']
    | 0xFB01 => ['F', 'I']
    | 0xFB02 => ['F', 'L']
    | 0xFB03 => ['F', 'F', 'I']
    | 0xFB04 => ['F', 'F', 'L']
    | 0xFB05 | 0xFB06 => ['S', 'T']
    | _ => [c]

def isLogLevel (s : String) : Bool :=
  logLevels.contains (String.ofList (s.toList.flatMap asciiCapitals))

def isExtension : Value → Bool
  | .str s => s.startsWith "." && s.length ≥ 2
  | _ => false

def isDirectiveKeyword : Value → Bool
  | .str s => Text.isIdentifier s
  | _ => false

namespace Settings

def firstFailing (ok : Value → Bool) (vs : List Value) : Option Value :=
  vs.find? fun v => !ok v

/-- Accepts settings, or reports the first field that is not well formed against
`file`. -/
def validate (s : Settings) (file : String) : Except Fault Unit := do
  let policyOk := match s.onError with
    | .str p => errorPolicies.contains p
    | _ => false
  if !policyOk then
    throw (.configInvalid ("Invalid on_error '" ++ (← s.onError.shown) ++ "': must be one of " ++
      ", ".intercalate errorPolicies) file)
  let level ← s.logLevel.shown
  if !isLogLevel level then
    throw (.configInvalid ("Invalid log_level '" ++ level ++ "'") file)
  if let some e := firstFailing isExtension (← s.extensions.items) then
    throw (.configInvalid ("Invalid extension '" ++ (← e.shown) ++
      "': extensions must look like '.cs'") file)
  if let some d := firstFailing isDirectiveKeyword (← s.directives.items) then
    throw (.configInvalid ("Invalid directive '" ++ (← d.shown) ++
      "': must be a bare keyword such as 'region'") file)

def toValue (s : Settings) : Value :=
  .dict [(.str "version", s.version), (.str "root", s.root), (.str "extensions", s.extensions),
    (.str "skip_dirs", s.skipDirs), (.str "encoding", s.encoding), (.str "on_error", s.onError),
    (.str "log_level", s.logLevel), (.str "directives", s.directives),
    (.str "output", .dict [(.str "index_dir", s.output.indexDir),
      (.str "sections_file", s.output.sectionsFile), (.str "types_file", s.output.typesFile)])]

def outputOfFields (fields : List (String × Value)) : Except Fault OutputSettings :=
  fields.foldlM (fun o (k, v) =>
    match k with
    | "index_dir" => .ok { o with indexDir := v }
    | "sections_file" => .ok { o with sectionsFile := v }
    | "types_file" => .ok { o with typesFile := v }
    | _ => .error (.unexpectedField "OutputConfig" k)) {}

/-- Sets one field by its name; a name that is no field is refused. -/
def setField (s : Settings) (k : String) (v : Value) (output : OutputSettings) :
    Except Fault Settings :=
  match k with
  | "version" => .ok { s with version := v }
  | "root" => .ok { s with root := v }
  | "extensions" => .ok { s with extensions := v }
  | "skip_dirs" => .ok { s with skipDirs := v }
  | "encoding" => .ok { s with encoding := v }
  | "on_error" => .ok { s with onError := v }
  | "log_level" => .ok { s with logLevel := v }
  | "directives" => .ok { s with directives := v }
  | "output" => .ok { s with output := output }
  | _ => .error (.unexpectedField "DocpairConfig" k)

def textFields (es : List (Value × Value)) : List (String × Value) :=
  es.filterMap fun (k, v) => match k with
    | .str k => some (k, v)
    | _ => none

def ofFields (fields : List (String × Value)) : Except Fault Settings := do
  let output ← match fields.find? (·.1 == "output") with
    | some (_, .dict es) => outputOfFields (textFields es)
    | some (_, v) => throw (.notKeywordMapping "scripts.docpair.config.OutputConfig" v.typeName)
    | none => pure {}
  fields.foldlM (fun s (k, v) => s.setField k v output) {}

end Settings

end Weave
