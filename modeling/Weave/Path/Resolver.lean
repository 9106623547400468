import Weave.Fault
import Weave.Path.Posix
import Weave.Text.Lower

/-! # Root-relative paths and pages

A resolver fixes a root directory. A source is named by its path relative to the root;
its page is that path with the suffix `.html` in place of its own, in lower case; a page
reaches the output root by one `../` for each directory above it, and links to another
page through that prefix.
-/

namespace Weave

open Weave.Posix

/-- The root against which sources are named: absolute, normal, ending in `/`. -/
structure Resolver where
  root : String
deriving DecidableEq, Repr

namespace Resolver

def make (cwd root : String) : Except Fault Resolver :=
  if root.isEmpty then .error .emptyRoot
  else
    let abs := absolute cwd root
    .ok ⟨if abs.endsWith "/" then abs else abs ++ "/"⟩

def relative (r : Resolver) (cwd path : String) : Except Fault String :=
  if path.isEmpty then .error .emptyPath
  else .ok (Posix.relative cwd path r.root)

end Resolver

def outputPath (rel : String) : Except Fault String :=
  let p := PurePath.ofText rel
  match p.withSuffix ".html" with
  | some q => .ok (Text.lower q.toText)
  | none => .error (.emptyName ("PurePosixPath(" ++ quoteText p.toText ++ ")"))

def pathToRoot (rel : String) : String :=
  String.join (List.replicate ((PurePath.ofText rel).depth - 1) "../")

def link (fromRel toRel : String) : Except Fault String :=
  (pathToRoot fromRel ++ ·) <$> outputPath toRel

end Weave
