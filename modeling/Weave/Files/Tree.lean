import Weave.Fault
import Weave.Number.Binary
import Weave.Path.Posix

/-! # A file tree in memory

A file tree maps absolute, normal paths to files, with their bytes, and directories.
The root `/` is always a directory, and a file holds fewer than `2^63` bytes, the most
that a file's size, a signed 64-bit count, can give; writing more is refused as too
large. Writing a file needs its directory to be there; making a directory makes the
directories above it too, and is refused where a file stands in the way. Reading follows
a path's names one by one, as the operating system does, so a `..` needs the directory
before it to be there.
-/

namespace Weave

/-- What stands at a path. -/
inductive Entry where
  | file (bytes : List UInt8)
  | dir
deriving DecidableEq, Repr

def Entry.fits : Entry → Bool
  | .file bytes => bytes.length < Binary.twoPow 63
  | .dir => true

theorem Entry.dir_fits : Entry.dir.fits = true := rfl

/-- A file tree: each path with what stands there. -/
structure FileTree where
  entries : List (String × Entry)
  fits : entries.all (·.2.fits) = true

namespace FileTree

def empty : FileTree := ⟨[], rfl⟩

def find? (t : FileTree) (p : String) : Option Entry :=
  if p == "/" then some .dir else (t.entries.find? (·.1 == p)).map (·.2)

def isFile (t : FileTree) (p : String) : Bool :=
  match t.find? p with
  | some (.file _) => true
  | _ => false

def isDir (t : FileTree) (p : String) : Bool :=
  t.find? p == some .dir

def parentOf (p : String) : String :=
  let names := Posix.nonemptyNames p
  "/" ++ "/".intercalate names.dropLast

def baseName (p : String) : String :=
  (Posix.nonemptyNames p).getLastD ""

def children (t : FileTree) (d : String) : List (String × Entry) :=
  t.entries.filterMap fun (p, e) =>
    if p != "/" && parentOf p == d then some (baseName p, e) else none

theorem fits_map_put (t : FileTree) (p : String) {e : Entry} (he : e.fits = true) :
    (t.entries.map fun q => if q.1 == p then (p, e) else q).all (·.2.fits) = true := by
  rw [List.all_map, List.all_eq_true]
  intro q hq
  simp only [Function.comp_apply]
  split
  · exact he
  · exact List.all_eq_true.1 t.fits q hq

theorem fits_append_put (t : FileTree) (p : String) {e : Entry} (he : e.fits = true) :
    (t.entries ++ [(p, e)]).all (·.2.fits) = true := by
  rw [List.all_append, t.fits, List.all_cons, List.all_nil, he]
  rfl

def put (t : FileTree) (p : String) (e : Entry) (he : e.fits = true) : FileTree :=
  if t.entries.any (·.1 == p) then
    ⟨t.entries.map fun q => if q.1 == p then (p, e) else q, fits_map_put t p he⟩
  else ⟨t.entries ++ [(p, e)], fits_append_put t p he⟩

def chain (p : String) : List String :=
  let names := Posix.nonemptyNames p
  (List.range names.length).map fun i => "/" ++ "/".intercalate (names.take (i + 1))

def makeDirs (t : FileTree) (p : String) : Except Fault FileTree :=
  (chain p).foldlM (fun t d =>
    match t.find? d with
    | some .dir => .ok t
    | some (.file _) =>
      if d == p then .error (.refused .alreadyExists p) else .error (.refused .notDirectory p)
    | none => .ok (t.put d .dir Entry.dir_fits)) t

def writeFile (t : FileTree) (p : String) (bytes : List UInt8) : Except Fault FileTree :=
  match t.find? p with
  | some .dir => .error (.refused .isDirectory p)
  | _ =>
    if t.isDir (parentOf p) then
      if h : (Entry.file bytes).fits = true then .ok (t.put p (.file bytes) h)
      else .error (.refused .fileTooLarge p)
    else if (chain (parentOf p)).any t.isFile then .error (.refused .notDirectory p)
    else .error (.refused .notFound p)

def pathOf (names : List String) : String :=
  "/" ++ "/".intercalate names

/-- Follows names from the directory named `here`, as the operating system does: each name
is looked up in a directory, where `.` stays and `..` goes up. The names of the path
reached, or why it cannot be reached. -/
def followNames (t : FileTree) : List String → List String → Except OsRefusal (List String)
  | here, [] => .ok here
  | here, n :: ns =>
    match t.find? (pathOf here) with
    | some .dir =>
      t.followNames (if n == "." then here else if n == ".." then here.dropLast else here ++ [n]) ns
    | some (.file _) => .error .notDirectory
    | none => .error .notFound

def readFile (t : FileTree) (p : String) : Except Fault (List UInt8) :=
  match t.followNames [] (Posix.nonemptyNames p) with
  | .error why => .error (.refused why p)
  | .ok names =>
    match t.find? (pathOf names) with
    | some (.file bytes) => .ok bytes
    | some .dir => .error (.refused .isDirectory p)
    | none => .error (.refused .notFound p)

end FileTree

end Weave
