import Weave.Files.Tree
import Weave.Text.Stream
import Weave.Source.Walk
import Weave.Section.Basic
import Weave.Path.Resolver
import Weave.Number.Size
import Weave.Run.Log

/-! # Parsing sources

A source file is read in its encoding, cut into tokens, read again line by line while
its declarations are registered, and cut into sections. A run parses files in order
into one registry: each file registers into a registry of its own, merged into the run's
once the file has parsed, so a file that fails leaves behind only the declarations
merged before its failure. On a documented failure the run stops, or, when told to skip,
records the failure and goes on; any other fault stops it.
-/

namespace Weave

/-- The files a run sees, and the directory relative paths start from. -/
structure Workspace where
  tree : FileTree
  cwd : String

def shownPath (p : String) : String :=
  (Posix.PurePath.ofText p).toText

/-- A file that parsed. -/
structure ParsedFile where
  relPath : String
  sections : List Section
  lines : List SourceLine
  declarations : List Declaration
  size : String

/-- A file that failed, with its documented failure. -/
structure ParseFailure where
  relPath : String
  fault : Fault

def ParseFailure.toValue (f : ParseFailure) : Value :=
  match f.fault.toValue with
  | .dict es => .dict (Value.store es (.str "file") (.str f.relPath))
  | v => v

/-- The outcome of a run. -/
structure RunResult where
  registry : Registry
  files : List ParsedFile
  failures : List ParseFailure

def RunResult.ok (r : RunResult) : Bool :=
  r.failures.isEmpty

def encodingName : Value → Except Fault (Option String)
  | .str s =>
    match utf8Refusal? s with
    | some e => .error (.unencodable e.message)
    | none => if s.contains '\x00' then .error .embeddedNull else .ok (some s)
  | .null => .ok none
  | v => .error (.encodingNotText v.typeName)

def pathFault? (p : String) : Option Fault :=
  match pathRefusal? p with
  | some e => some (.unencodable e.message)
  | none => if p.contains '\x00' then some .nulInPath else none

def codecOfName : Option String → Except Fault Codec
  | some "locale" | none => .ok .utf8
  | some s => Codec.lookup s

def countKind (k : LineKind) (lines : List SourceLine) : Nat :=
  (lines.filter fun l => l.kind == k).length

/-- Parses one file into a registry: the file, the registry after it, and the record of
what was parsed. -/
def parseFile (ws : Workspace) (path : String) (registry : Registry) (resolver : Resolver)
    (encoding : Value) (keywords : List String) :
    Except Fault (ParsedFile × Registry × LogRecord) := do
  let shown := shownPath path
  let rel ← resolver.relative ws.cwd shown
  let name ← encodingName encoding
  if let some e := pathFault? shown then throw e
  let unreadable (why : String) : Fault := .unreadable ("Cannot read source: " ++ why) rel
  let bytes ← match ws.tree.readFile (Posix.join ws.cwd shown) with
    | .ok b => pure b
    | .error (.refused why _) => throw (unreadable (Fault.refused why shown).message)
    | .error e => throw e
  let codec ← codecOfName name
  let text ← match readText codec bytes with
    | .ok t => pure t
    | .error (.invalid e) => throw (unreadable e.message)
    | .error (.refused reason) => throw (.codecRefused reason)
    | .error .internal => throw .codecInternal
  let tokens ← (Token.lex text).mapError (·.withFile rel)
  let c := classifyLines tokens text registry rel
  let lines ← c.lines.mapError (·.withFile rel)
  let size ← byteSize bytes.length
  let sections := sectionsOf keywords lines
  let record : LogRecord := ⟨.debug, pipelineSource,
    "Parsed " ++ rel ++ ": " ++ toString lines.length ++ " lines (" ++
      toString (countKind .comment lines) ++ " comment), " ++ toString sections.length ++ " sections"⟩
  return (⟨rel, sections, lines, c.registry.inFile (.str rel), size⟩, c.registry, record)

/-- What to do when a file fails. -/
inductive ErrorPolicy where
  | abort
  | skip
deriving DecidableEq, Repr

def ErrorPolicy.ofValue : Value → Except Fault ErrorPolicy
  | .str "abort" => .ok .abort
  | .str "skip" => .ok .skip
  | v => .error (.unknownPolicy v)

/-- Parses files in order into one registry, starting from `result`; the records of what
happened come first, then the outcome. -/
def parseEach (ws : Workspace) (resolver : Resolver) (policy : ErrorPolicy) (encoding : Value)
    (keywords : List String) (logs : List LogRecord) (result : RunResult) :
    List String → List LogRecord × Except Fault RunResult
  | [] => (logs, .ok result)
  | path :: rest =>
    let failed (logs : List LogRecord) (e : Fault) (registry : Registry) :
        List LogRecord × Except Fault RunResult :=
      let rel := if e.file.truthy then e.file.display
        else (resolver.relative ws.cwd (shownPath path)).toOption.getD ""
      match policy with
      | .abort =>
        (logs ++ [⟨.error, pipelineSource, "Aborting run at " ++ rel ++ ": " ++ e.summary⟩], .error e)
      | .skip =>
        parseEach ws resolver policy encoding keywords
          (logs ++ [⟨.warning, pipelineSource, "Skipping " ++ rel ++ ": " ++ e.summary⟩])
          { result with registry := registry, failures := result.failures ++ [⟨rel, e⟩] } rest
    match parseFile ws path Registry.empty resolver encoding keywords with
    | .error e =>
      if e.category?.isSome then failed logs e result.registry else (logs, .error e)
    | .ok (parsed, staging, record) =>
      match result.registry.extend staging.entries with
      | (registry, some e) => failed (logs ++ [record]) e registry
      | (registry, none) =>
        let done : LogRecord := ⟨.info, pipelineSource, parsed.relPath ++ ": " ++
          toString parsed.sections.length ++ " sections, " ++ toString parsed.declarations.length ++
          " types"⟩
        parseEach ws resolver policy encoding keywords (logs ++ [record, done])
          { result with registry := registry, files := result.files ++ [parsed] } rest

/-- Parses files relative to a root directory, under an error policy, into `registry`. -/
def parseFiles (ws : Workspace) (paths : List String) (root : String) (onError : Value)
    (encoding : Value) (keywords : List String) (registry : Registry) :
    List LogRecord × Except Fault RunResult :=
  match ErrorPolicy.ofValue onError, Resolver.make ws.cwd root with
  | .error e, _ => ([], .error e)
  | _, .error e => ([], .error e)
  | .ok policy, .ok resolver =>
    match parseEach ws resolver policy encoding keywords [] ⟨registry, [], []⟩ paths with
    | (logs, .ok r) =>
      (logs ++ [⟨.info, pipelineSource, "Parsed " ++ toString r.files.length ++ " files, " ++
        toString r.registry.size ++ " types, " ++ toString r.failures.length ++ " failures"⟩], .ok r)
    | other => other

end Weave
