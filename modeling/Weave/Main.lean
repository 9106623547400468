import Weave.Cli.Run
import Weave.Index.Stamp
import Std.Time

/-! # The command line

Loads the files under the working directory into a file tree, runs the program on the
command-line arguments with the current time as the index stamp, writes back the files
the run made or changed, and prints what it wrote. A fault that no command handles is
printed as an error with exit code 1.
-/

open Weave

/-- Adds directory entries, and the files and directories under them, to a tree; a file too
large for a file size is left out. -/
partial def loadEntries (tree : FileTree) (entries : Array IO.FS.DirEntry) : IO FileTree := do
  let mut tree := tree
  for entry in entries do
    let path := entry.path.toString
    if ← entry.path.isDir then
      tree ← loadEntries (tree.put path .dir Entry.dir_fits) (← entry.path.readDir)
    else
      let bytes ← IO.FS.readBinFile entry.path
      if h : (Entry.file bytes.toList).fits = true then
        tree := tree.put path (.file bytes.toList) h
  return tree

def main (args : List String) : IO UInt32 := do
  let here ← IO.currentDir
  let cwd := here.toString
  let base := FileTree.chain cwd |>.foldl (fun t d => t.put d .dir Entry.dir_fits) FileTree.empty
  let tree ← loadEntries base (← here.readDir)
  let now ← Std.Time.Timestamp.now
  let out := Cli.runProgram tree cwd (isoStamp now.toNanosecondsSinceUnixEpoch.val) args
  for (path, entry) in out.tree.entries do
    if tree.find? path != some entry then
      match entry with
      | .dir => IO.FS.createDirAll path
      | .file bytes => IO.FS.writeBinFile path (ByteArray.mk bytes.toArray)
  IO.print out.stdout
  IO.eprint out.stderr
  match out.outcome with
  | .ok code => return code.toUInt32
  | .error e =>
    IO.eprintln ("error: " ++ e.message)
    return 1
