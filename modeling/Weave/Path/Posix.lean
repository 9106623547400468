/-! # POSIX paths

Paths are texts whose names are parted by `/`. A path that starts with exactly two
slashes keeps them as its root; one, or three and more, give the root `/`.
-/

namespace Weave.Posix

def names (p : String) : List String :=
  (p.toList.splitOn '/').map String.ofList

def rootSlashes (p : String) : Nat :=
  let cs := p.toList
  let n := (cs.takeWhile (· == '/')).length
  if n == 0 then 0 else if n == 2 then 2 else 1

/-- Folds names into a normalised list: `..` removes the name before it, unless there
is none or it is itself `..`; at a root, a leading `..` is dropped. -/
def foldNames (rooted : Bool) : List String → List String → List String
  | acc, [] => acc.reverse
  | acc, n :: ns =>
    if n == "" || n == "." then foldNames rooted acc ns
    else if n != ".." then foldNames rooted (n :: acc) ns
    else match acc with
      | ".." :: _ => foldNames rooted (n :: acc) ns
      | _ :: rest => foldNames rooted rest ns
      | [] => if rooted then foldNames rooted [] ns else foldNames rooted [n] ns

def normalize (p : String) : String :=
  if p.isEmpty then "."
  else
    let slashes := rootSlashes p
    let body := "/".intercalate (foldNames (slashes > 0) [] (names p))
    let out := String.ofList (List.replicate slashes '/') ++ body
    if out.isEmpty then "." else out

def isAbsolute (p : String) : Bool :=
  p.startsWith "/"

def join (dir p : String) : String :=
  if isAbsolute p then p
  else if dir.isEmpty || dir.endsWith "/" then dir ++ p
  else dir ++ "/" ++ p

def absolute (cwd p : String) : String :=
  normalize (join cwd p)

/-- The path the system resolves a path text to from the absolute directory `cwd` when no
name on the way is a link: the names normalised below a root of one slash. -/
def resolve (cwd p : String) : String :=
  "/" ++ "/".intercalate (foldNames true [] (names (join cwd p)))

def nonemptyNames (p : String) : List String :=
  (names p).filter (· != "")

def commonLength : List String → List String → Nat
  | a :: as, b :: bs => if a == b then commonLength as bs + 1 else 0
  | _, _ => 0

def relative (cwd p start : String) : String :=
  let s := nonemptyNames (absolute cwd start)
  let t := nonemptyNames (absolute cwd p)
  let i := commonLength s t
  let parts := List.replicate (s.length - i) ".." ++ t.drop i
  if parts.isEmpty then "." else "/".intercalate parts

/-- A path read as its root and its names, without looking at the file system. -/
structure PurePath where
  root : String
  parts : List String
deriving DecidableEq, Repr

namespace PurePath

def ofText (p : String) : PurePath :=
  ⟨String.ofList (List.replicate (rootSlashes p) '/'),
    (names p).filter fun n => n != "" && n != "."⟩

def toText (p : PurePath) : String :=
  let body := "/".intercalate p.parts
  if p.root.isEmpty && body.isEmpty then "." else p.root ++ body

def depth (p : PurePath) : Nat :=
  (if p.root.isEmpty then 0 else 1) + p.parts.length

def name (p : PurePath) : String :=
  p.parts.getLastD ""

def suffixOf (name : String) : String :=
  let cs := name.toList
  match (List.range cs.length).reverse.find? (fun i => cs[i]? == some '.') with
  | some i => if 0 < i && i < cs.length - 1 then String.ofList (cs.drop i) else ""
  | none => ""

def withSuffix (p : PurePath) (suffix : String) : Option PurePath :=
  let n := p.name
  if n.isEmpty then none
  else
    let old := suffixOf n
    let stem := String.ofList (n.toList.take (n.length - old.length))
    some ⟨p.root, p.parts.dropLast ++ [stem ++ suffix]⟩

end PurePath

end Weave.Posix
