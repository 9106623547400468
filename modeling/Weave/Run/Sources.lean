import Weave.Run.Pipeline
import Weave.Data.Items
import Weave.Text.Lower
import Weave.Data.Order

/-! # Finding sources

Arguments name files and directories. A file is taken as it is, whatever its extension;
a directory is searched for files with one of the extensions, in any case, skipping
directories that are listed to skip or whose name starts with a dot. The files found in
one directory are taken in the order of their names, compared name by name and code point
by code point. No file is taken twice; an argument that is neither file nor directory is
refused.
-/

namespace Weave

def Value.holdsText (v : Value) (s : String) : Except Fault Bool :=
  match v.view with
  | .list vs | .tuple vs | .set vs => .ok (vs.any fun | .str t => t == s | _ => false)
  | .str t => .ok ((t.splitOn s).length > 1 || s.isEmpty)
  | .dict es => .ok (es.any fun e => Value.sameKey e.1 (.str s))
  | .bytes _ => .error .textInBytes
  | v => .error (.notContainer v.typeName)

def skipsDir (skipDirs : Value) (name : String) : Except Fault Bool := do
  if ← skipDirs.holdsText name then return true
  return name.startsWith "."

def loweredExtensions (extensions : Value) : Except Fault (List String) := do
  (← extensions.items).mapM fun
    | .str e => .ok (Text.lower e)
    | v => .error (.noAttribute v.typeName "lower")

def hasExtension (extensions : Value) (name : String) : Except Fault Bool := do
  return (← loweredExtensions extensions).contains (Text.lower (Posix.PurePath.suffixOf name))

def pathBefore (a b : String) : Bool :=
  let rec go : List String → List String → Bool
    | [], _ :: _ => true
    | _, [] => false
    | x :: xs, y :: ys => if x == y then go xs ys else codesBelow (textCodes x) (textCodes y)
  go (Posix.names a) (Posix.names b)

/-- The files under a directory with one of the extensions, searching `fuel` levels. In
each directory the subdirectories to search are chosen before its files are looked at. -/
def filesUnder (tree : FileTree) (skipDirs extensions : Value) :
    Nat → String → Except Fault (List String)
  | 0, _ => .ok []
  | fuel + 1, dir => do
    let entries := tree.children dir
    let mut kept : List String := []
    for (name, e) in entries do
      if let .dir := e then
        if !(← skipsDir skipDirs name) then kept := kept ++ [name]
    let mut found : List String := []
    for (name, e) in entries do
      if let .file _ := e then
        if ← hasExtension extensions name then found := found ++ [Posix.join dir name]
    for name in kept do
      found := found ++ (← filesUnder tree skipDirs extensions fuel (Posix.join dir name))
    return found

def Workspace.resolve (ws : Workspace) (arg : String) : String :=
  Posix.resolve ws.cwd (shownPath arg)

def collectSources (ws : Workspace) (args : List String) (skipDirs extensions : Value) :
    List LogRecord × Except Fault (List String) :=
  go args [] []
where
  go : List String → List LogRecord → List String → List LogRecord × Except Fault (List String)
    | [], logs, acc => (logs, .ok acc)
    | arg :: rest, logs, acc =>
      let path := ws.resolve arg
      let add (acc : List String) (p : String) := if acc.contains p then acc else acc ++ [p]
      if ws.tree.isFile path then go rest logs (add acc path)
      else if !ws.tree.isDir path then (logs, .error (.sourceNotFound arg))
      else
        match filesUnder ws.tree skipDirs extensions (ws.tree.entries.length + 1) path with
        | .error e => (logs, .error e)
        | .ok found =>
          let sorted := found.mergeSort pathBefore
          let record : LogRecord := ⟨.debug, sourcesSource,
            "Found " ++ toString found.length ++ " source files under " ++ path⟩
          go rest (logs ++ [record]) (sorted.foldl add acc)

end Weave
