import Weave.Number.Binary
import Weave.Data.Calendar

/-! # Document values

The configuration file and the index documents are trees of values: null, booleans,
integers of any size, binary64 numbers, texts, lists and mappings. A YAML document may
also hold what JSON cannot: byte strings, dates and times of day, tuples (the entries of
an ordered map), sets, and lists and mappings that hold themselves, directly or through
others.
-/

namespace Weave

/-- A value of a document. -/
inductive Value where
  | null
  | bool (b : Bool)
  | int (n : Int)
  | float (x : Float)
  | str (s : String)
  | list (items : List Value)
  | dict (entries : List (Value × Value))
  | bytes (data : List UInt8)
  | tuple (items : List Value)
  | set (items : List Value)
  | date (year month day : Nat)
  | dateTime (year month day hour minute second micro : Nat) (offset : Option Int)
  | recursive (isMapping : Bool)
  | reference (id : Nat)
  | cyclic (heap : List (Nat × Value)) (id : Nat)
deriving Inhabited

namespace Value

/-- The name of the sort of a value, as reports of misused values spell it. -/
def typeName : Value → String
  | null => "NoneType"
  | bool _ => "bool"
  | int _ => "int"
  | float _ => "float"
  | str _ => "str"
  | list _ => "list"
  | dict _ => "dict"
  | bytes _ => "bytes"
  | tuple _ => "tuple"
  | set _ => "set"
  | date .. => "datetime.date"
  | dateTime .. => "datetime.datetime"
  | recursive isMapping => if isMapping then "dict" else "list"
  | reference _ => "NoneType"
  | cyclic heap id => match heap.lookup id with
    | some (dict _) => "dict"
    | _ => "list"

def shortTypeName : Value → String
  | date .. => "date"
  | dateTime .. => "datetime"
  | v => v.typeName

/-- Whether a value counts as true where a condition is expected: everything but null,
`false`, zero and the empty text, byte string and collection. A collection that holds
itself is not empty. -/
def truthy : Value → Bool
  | null => false
  | bool b => b
  | int n => n != 0
  | float x => x != 0
  | str s => !s.isEmpty
  | list l => !l.isEmpty
  | dict d => !d.isEmpty
  | bytes b => !b.isEmpty
  | tuple l => !l.isEmpty
  | set l => !l.isEmpty
  | date .. | dateTime .. => true
  | recursive _ | reference _ | cyclic .. => true

def numeric? : Value → Option (Sum Int Float)
  | bool b => some (.inl (if b then 1 else 0))
  | int n => some (.inl n)
  | float x => some (.inr x)
  | _ => none

def intMatchesFloat (n : Int) (x : Float) : Bool :=
  Binary.exactInt? x == some n

def instant (year month day hour minute second : Nat) (offset : Int) : Int :=
  daysOfCivil year month day * 86400 + hour * 3600 + minute * 60 + second - offset

/-- Whether two values are the same mapping key. Two times with offsets are the same when
they are the same instant; a time with an offset is never one without. -/
def sameKey : Value → Value → Bool
  | null, null => true
  | str a, str b => a == b
  | bytes a, bytes b => a == b
  | date y m d, date y' m' d' => y == y' && m == m' && d == d'
  | dateTime y m d h i s u none, dateTime y' m' d' h' i' s' u' none =>
    [y, m, d, h, i, s, u] == [y', m', d', h', i', s', u']
  | dateTime y m d h i s u (some o), dateTime y' m' d' h' i' s' u' (some o') =>
    instant y m d h i s o == instant y' m' d' h' i' s' o' && u == u'
  | date .., _ | _, date .. | dateTime .., _ | _, dateTime .. => false
  | a, b =>
    match a.numeric?, b.numeric? with
    | some (.inl m), some (.inl n) => m == n
    | some (.inr x), some (.inr y) => x == y
    | some (.inl m), some (.inr y) => intMatchesFloat m y
    | some (.inr x), some (.inl n) => intMatchesFloat n x
    | _, _ => false

def store (entries : List (Value × Value)) (k v : Value) : List (Value × Value) :=
  if entries.any (fun e => sameKey e.1 k) then
    entries.map fun e => if sameKey e.1 k then (e.1, v) else e
  else entries ++ [(k, v)]

def close (heap : List (Nat × Value)) : Value → Value
  | reference id => cyclic heap id
  | list items => list (items.attach.map fun ⟨v, _⟩ => close heap v)
  | tuple items => tuple (items.attach.map fun ⟨v, _⟩ => close heap v)
  | set items => set (items.attach.map fun ⟨v, _⟩ => close heap v)
  | dict entries => dict (entries.attach.map fun ⟨(k, v), _⟩ => (close heap k, close heap v))
  | v => v
termination_by v => sizeOf v
decreasing_by
  all_goals simp_wf
  all_goals
    have h := List.sizeOf_lt_of_mem ‹_›
    try simp at h
    omega

def view : Value → Value
  | cyclic heap id => match heap.lookup id with
    | some body => close heap body
    | none => null
  | v => v

def heapMapping (heap : List (Nat × Value)) (id : Nat) : Bool :=
  match heap.lookup id with
  | some (dict _) => true
  | _ => false

/-- The tree a value of the bodies of `heap` unfolds to inside the collections `inside`:
each reference in full, except one to a collection it stands inside, which is
`recursive`. `fuel` bounds how many more collections can be entered; the collections
entered on a path are all different, so the number in `heap` and one more are enough. -/
def unfold (heap : List (Nat × Value)) (inside : List Nat) : Nat → Value → Value
  | fuel, reference id =>
    if inside.contains id then recursive (heapMapping heap id)
    else match fuel, heap.lookup id with
      | fuel + 1, some body => unfold heap (id :: inside) fuel body
      | _, _ => null
  | fuel, list items => list (items.attach.map fun ⟨v, _⟩ => unfold heap inside fuel v)
  | fuel, tuple items => tuple (items.attach.map fun ⟨v, _⟩ => unfold heap inside fuel v)
  | fuel, set items => set (items.attach.map fun ⟨v, _⟩ => unfold heap inside fuel v)
  | fuel, dict entries =>
    dict (entries.attach.map fun ⟨(k, v), _⟩ => (unfold heap inside fuel k, unfold heap inside fuel v))
  | _, v => v
termination_by fuel v => (fuel, sizeOf v)
decreasing_by
  all_goals simp_wf
  all_goals first
    | omega
    | (apply Prod.Lex.right
       have h := List.sizeOf_lt_of_mem ‹_›
       try simp at h
       omega)

def expand : Value → Value
  | cyclic heap id => unfold heap [] (heap.length + 1) (reference id)
  | list items => list (items.attach.map fun ⟨v, _⟩ => expand v)
  | tuple items => tuple (items.attach.map fun ⟨v, _⟩ => expand v)
  | set items => set (items.attach.map fun ⟨v, _⟩ => expand v)
  | dict entries => dict (entries.attach.map fun ⟨(k, v), _⟩ => (expand k, expand v))
  | v => v
termination_by v => sizeOf v
decreasing_by
  all_goals simp_wf
  all_goals
    have h := List.sizeOf_lt_of_mem ‹_›
    try simp at h
    omega

def field? (entries : List (Value × Value)) (k : String) : Option Value :=
  (entries.find? fun e => sameKey e.1 (str k)).map Prod.snd

end Value

end Weave
