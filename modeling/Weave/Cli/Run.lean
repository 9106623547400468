import Weave.Cli.Args
import Weave.Config.Load
import Weave.Yaml.Load
import Weave.Index.Load
import Weave.Index.Build
import Weave.Run.Sources
import Weave.Data.Json.Write

/-! # Running commands

A command-line run reads its arguments, loads the settings (from the file named by
`--config`, else `docpair.yaml` in the working directory), and runs one of three
commands over the file tree:
-/

namespace Weave.Cli

/-- What a run writes and the files it sees. -/
structure Console where
  tree : FileTree
  stdout : String
  stderr : String

abbrev RunM := EStateM Fault Console

def exitSuccess : Nat := 0
def exitConfigError : Nat := 1
def exitFileSystemError : Nat := 2
def exitPartialSuccess : Nat := 3
def exitParseError : Nat := 4

def say (line : String) : RunM Unit :=
  modify fun c => { c with stdout := c.stdout ++ line ++ "\n" }

def complain (line : String) : RunM Unit :=
  modify fun c => { c with stderr := c.stderr ++ line ++ "\n" }

def lift {α : Type} : Except Fault α → RunM α
  | .ok a => pure a
  | .error e => throw e

/-- The context of a run: the working directory, the time the indexes are stamped with,
and the level logs are shown at. -/
structure RunContext where
  cwd : String
  generated : String
  threshold : LogLevel

def emit (ctx : RunContext) (records : List LogRecord) : RunM Unit :=
  (shownLines ctx.threshold records).forM complain

def textValue (values : Namespace) (dest : String) : Option String :=
  match values.lookup dest with
  | some (.text (some s)) => some s
  | _ => none

def givenText (values : Namespace) (dest : String) : Option String :=
  (textValue values dest).filter (!·.isEmpty)

def flagValue (values : Namespace) (dest : String) : Bool :=
  values.lookup dest == some (.flag true)

def workspace (cwd : String) : RunM Workspace := do
  return ⟨(← get).tree, cwd⟩

def resolvePath (cwd p : String) : String :=
  Posix.resolve cwd (shownPath p)

/-- Reads a whole file as UTF-8 text with its line ends made line feeds; `none` when
nothing stands at the path, or a name on the way to it leads nowhere. -/
def readTextFile (cwd path : String) : RunM (Option String) := do
  let tree := (← get).tree
  let reached := (tree.followNames [] (Posix.nonemptyNames (Posix.join cwd path))).toOption
  match reached.bind fun names => tree.find? (FileTree.pathOf names) with
  | none => return none
  | some .dir => throw (.refused .isDirectory path)
  | some (.file bytes) =>
    match Decoder.utf8.feed bytes true with
    | .ok (cs, _, _) => return some (Text.universalNewlines (String.ofList cs))
    | .error (.invalid e) => throw (.undecodable e.message)
    | .error (.refused reason) => throw (.codecRefused reason)
    | .error .internal => throw .codecInternal

/-- Loads the settings: from the file named, else from `docpair.yaml` in the working
directory; `none` when they are not acceptable, after reporting why. -/
def loadSettings (cwd : String) (values : Namespace) : RunM (Option Settings) := do
  let path := match givenText values "config" with
    | some p => shownPath p
    | none => Posix.join cwd settingsFileName
  let content ← readTextFile cwd path
  match Settings.load Yaml.load path content with
  | .ok s => return some s
  | .error e =>
    if e.category? == some "config_invalid" then
      complain (Json.write .oneLine e.toValue)
      return none
    else throw e

def threshold (values : Namespace) (s : Settings) : LogLevel :=
  if flagValue values "verbose" then .debug
  else LogLevel.ofName (String.ofList (s.logLevel.display.toList.flatMap asciiCapitals))

/-- The root directory: the one given, else the configured one, else the working
directory. -/
def rootDir (cwd : String) (values : Namespace) (s : Settings) : Except Fault String :=
  match givenText values "root" with
  | some r => .ok (resolvePath cwd r)
  | none =>
    if !s.root.truthy then .ok cwd
    else match s.root with
      | .str r => .ok (resolvePath cwd r)
      | .bytes _ => .error .bytesPath
      | v => .error (.notPathLike v.shortTypeName)

def joinSetting (dir : String) : Value → Except Fault String
  | .str s => .ok (shownPath (Posix.join dir s))
  | v => .error (.cannotJoinPath v.typeName)

def keywordsOf (v : Value) : Except Fault (List String) := do
  return (← v.items).filterMap fun | .str s => some s | _ => none

def saveIndex (cwd : String) (doc : Value) (path : String) : RunM Unit := do
  let abs := Posix.absolute cwd path
  let tree := (← get).tree
  let tree ← lift (tree.makeDirs (FileTree.parentOf abs))
  let tree ← lift (tree.writeFile abs (Json.write (.indented 2) doc).toUTF8.toList)
  modify fun c => { c with tree := tree }

/-- Parses sources and writes the indexes. -/
def build (ctx : RunContext) (values : Namespace) (s : Settings) : RunM Nat := do
  let root ← lift (rootDir ctx.cwd values s)
  let args := match values.lookup "paths" with
    | some (.texts (some ps)) => if ps.isEmpty then [root] else ps
    | _ => [root]
  let ws ← workspace ctx.cwd
  let (records, found) := collectSources ws args s.skipDirs s.extensions
  emit ctx records
  let sources ← match found with
    | .ok fs => pure fs
    | .error (.sourceNotFound p) =>
      complain ("Error: " ++ (Fault.sourceNotFound p).message)
      return exitFileSystemError
    | .error e => throw e
  if sources.isEmpty then
    complain "No source files found."
    return exitFileSystemError
  let onError := if flagValue values "skip_errors" then .str "skip" else s.onError
  say ("Parsing " ++ toString sources.length ++ " files...")
  let keywords ← lift (keywordsOf s.directives)
  let (records, outcome) := parseFiles ws sources root onError s.encoding keywords Registry.empty
  emit ctx records
  let result ← match outcome with
    | .ok r => pure r
    | .error e =>
      if e.category?.isSome then
        complain (Json.write .oneLine e.toValue)
        return exitParseError
      else throw e
  let outputDir ← lift (joinSetting root s.output.indexDir)
  let sections ← lift (sectionsIndex ctx.generated result)
  saveIndex ctx.cwd sections (← lift (joinSetting outputDir s.output.sectionsFile))
  saveIndex ctx.cwd (typesIndex ctx.generated result.registry)
    (← lift (joinSetting outputDir s.output.typesFile))
  say ("  Parsed " ++ toString result.files.length ++ " files")
  say ("  Found " ++ toString result.registry.size ++ " types")
  if !result.failures.isEmpty then
    say ("  Skipped " ++ toString result.failures.length ++ " files due to errors")
    for f in result.failures do
      complain (Json.write .oneLine f.toValue)
  say ("Output: " ++ outputDir)
  return if result.failures.isEmpty then exitSuccess else exitPartialSuccess

/-- Parses one file and prints its sections and types. -/
def parseOne (ctx : RunContext) (values : Namespace) (s : Settings) : RunM Nat := do
  let given := (textValue values "file").getD ""
  let path := resolvePath ctx.cwd given
  let ws ← workspace ctx.cwd
  if !ws.tree.isFile path then
    complain ("Error: file not found: " ++ given)
    return exitFileSystemError
  let root := match givenText values "root" with
    | some r => resolvePath ctx.cwd r
    | none => FileTree.parentOf path
  let keywords ← lift (keywordsOf s.directives)
  let (records, outcome) := parseFiles ws [path] root (.str "abort") s.encoding keywords Registry.empty
  emit ctx records
  let result ← match outcome with
    | .ok r => pure r
    | .error e =>
      if e.category?.isSome then
        complain (Json.write .oneLine e.toValue)
        return exitParseError
      else throw e
  match result.files with
  | parsed :: _ =>
    say (Json.write (.indented 2) (.dict [(.str "file", .str parsed.relPath),
      (.str "sections", .list (parsed.sections.map Section.toValue)),
      (.str "types", result.registry.toValue)]))
    return exitSuccess
  | [] => return exitSuccess

/-- Lists the declarations of the written types index. -/
def listTypes (ctx : RunContext) (values : Namespace) (s : Settings) : RunM Nat := do
  let root ← lift (rootDir ctx.cwd values s)
  let dir ← lift (joinSetting root s.output.indexDir)
  let path ← lift (joinSetting dir s.output.typesFile)
  let content ← readTextFile ctx.cwd path
  match ← lift (Registry.ofIndex content) with
  | none =>
    say "Types index not found. Run 'docpair build' first."
    return exitFileSystemError
  | some registry =>
    let fileWanted := givenText values "file"
    let nameWanted := givenText values "name"
    let found := registry.entries.filter fun d =>
      fileWanted.all (d.file.sameKey <| .str ·) && nameWanted.all (d.name.sameKey <| .str ·)
    for d in found do
      say (d.name.display ++ "\t" ++ d.kind.keyword ++ "\t" ++ d.file.display ++ ":" ++
        d.line.display)
    if found.isEmpty then say "No matching types."
    return exitSuccess

def runInvocation (cwd generated : String) (inv : Invocation) : RunM Nat := do
  let some s ← loadSettings cwd inv.values | return exitConfigError
  let ctx : RunContext := ⟨cwd, generated, threshold inv.values s⟩
  match inv.command with
  | "build" => build ctx inv.values s
  | "parse" => parseOne ctx inv.values s
  | _ => listTypes ctx inv.values s

/-- What a run leaves: its exit code or the fault that ended it, what it wrote, and the
file tree after it. -/
structure RunOutput where
  outcome : Except Fault Nat
  stdout : String
  stderr : String
  tree : FileTree

def runProgram (tree : FileTree) (cwd generated : String) (argv : List String) : RunOutput :=
  match readCommandLine program argv with
  | .error e => ⟨.ok e.code, e.stdout, e.stderr, tree⟩
  | .ok inv =>
    match (runInvocation cwd generated inv).run ⟨tree, "", ""⟩ with
    | .ok code c => ⟨.ok code, c.stdout, c.stderr, c.tree⟩
    | .error e c => ⟨.error e, c.stdout, c.stderr, c.tree⟩

end Weave.Cli
