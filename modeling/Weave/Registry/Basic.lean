import Weave.Registry.Declaration
import Weave.Data.Order
import Weave.Data.Hashing

/-! # The registry of type declarations

A registry is the list of declarations in the order they were added, no two with the
same key. A key is looked up as a hash table looks it up: a name or file that cannot be
hashed is refused before anything is compared, and two keys are the same when their
names and their files are the same parts (`Value.samePart`). Adding a declaration whose
key is present fails and leaves the registry as it was; otherwise the declaration goes
to the end. Extending by several declarations adds them in order and stops at the first
that fails, keeping those added before it; read from document mappings, each is read
just before it is added. A walk over the declarations copies them at its first step,
not when it is made, so what is added while it runs is not given.
-/

namespace Weave

/-- Declarations in insertion order, no two with the same key. -/
structure Registry where
  entries : List Declaration
  keys_distinct : entries.Pairwise fun a b => a.clashes b = false

namespace Registry

def empty : Registry :=
  ⟨[], List.Pairwise.nil⟩

instance : Inhabited Registry := ⟨empty⟩

def get? (r : Registry) (name file : Value) : Except Fault (Option Declaration) :=
  match keyFault? name file with
  | some e => .error e
  | none => .ok (r.entries.find? fun d => d.name.samePart name && d.file.samePart file)

def contains (r : Registry) (name file : Value) : Except Fault Bool :=
  (r.get? name file).map Option.isSome

def size (r : Registry) : Nat :=
  r.entries.length

def inFile (r : Registry) (file : Value) : List Declaration :=
  r.entries.filter fun d => d.file.sameKey file

def nameSet (r : Registry) : List Value :=
  r.entries.foldl (fun acc d => if acc.any (·.samePart d.name) then acc else acc ++ [d.name]) []

def names (r : Registry) : Except Fault (List Value) :=
  sortBy Value.lessThan (addedSetOrder r.nameSet)

theorem pairwise_push {ds : List Declaration} {d : Declaration}
    (h : ds.Pairwise fun a b => a.clashes b = false)
    (fresh : (ds.any fun e => e.clashes d) = false) :
    (ds ++ [d]).Pairwise fun a b => a.clashes b = false := by
  rw [List.pairwise_append]
  refine ⟨h, List.pairwise_singleton _ _, ?_⟩
  intro a ha b hb
  rw [List.mem_singleton] at hb
  subst hb
  have := List.any_eq_false.1 fresh a ha
  simpa using this

/-- Adds a declaration, unless its key cannot be looked up or is taken. -/
def insert (r : Registry) (d : Declaration) : Except Fault Registry :=
  match keyFault? d.name d.file with
  | some e => .error e
  | none =>
    match h : r.entries.any fun e => e.clashes d with
    | true =>
      match r.entries.find? fun e => e.clashes d with
      | some old => .error (.duplicateType d.name d.file old.line d.line)
      | none => .error (.duplicateType d.name d.file (.int 0) d.line)
    | false => .ok ⟨r.entries ++ [d], pairwise_push r.keys_distinct h⟩

def add (r : Registry) (name file line kind : Value) :
    Except Fault (Registry × Declaration) := do
  if let some old := ← r.get? name file then
    throw (.duplicateType name file old.line line)
  let k ← DeclKind.ofValue kind
  let d : Declaration := ⟨name, k, file, line⟩
  let r' ← r.insert d
  pure (r', d)

def extend (r : Registry) : List Declaration → Registry × Option Fault
  | [] => (r, none)
  | d :: ds =>
    match r.insert d with
    | .ok r' => r'.extend ds
    | .error e => (r, some e)

def toValue (r : Registry) : Value :=
  .list (r.entries.map Declaration.toValue)

/-- A walk over the declarations, the state of the registry's lazy iterator: nothing
before its first step, which copies the declarations; after that, what is left of the
copy. -/
structure Walk where
  left : Option (List Declaration)

def Walk.start : Walk :=
  ⟨none⟩

def Walk.next (w : Walk) (r : Registry) : Option Declaration × Walk :=
  match w.left.getD r.entries with
  | [] => (none, ⟨some []⟩)
  | d :: ds => (some d, ⟨some ds⟩)

def Walk.run : Walk → List Registry → List (Option Declaration)
  | _, [] => []
  | w, r :: rs => (w.next r).1 :: (w.next r).2.run rs

/-- Reads declarations from document mappings and adds each as soon as it is read; at
the first entry that cannot be read or added, the registry as it was then and the
fault. -/
def extendValues (r : Registry) : List Value → Registry × Option Fault
  | [] => (r, none)
  | v :: vs =>
    match Declaration.ofValue v >>= r.insert with
    | .ok r' => r'.extendValues vs
    | .error e => (r, some e)

def ofValues (entries : List Value) : Except Fault Registry :=
  match empty.extendValues entries with
  | (r, none) => .ok r
  | (_, some e) => .error e

end Registry

end Weave
