/-! # Tables of characters

The tables of string preparation are sorted arrays searched by halving. A `CharTable` maps
characters to texts; it is read from a text of entries, each a character, the text it maps
to, and a tab. A `PairTable` maps pairs of characters to characters; it is read from a
text of triples. A range table holds sorted, disjoint ranges of code points.
-/

namespace Weave.Text.Stringprep

def searchSorted (key : Nat → Nat) (target lo hi : Nat) : Option Nat :=
  if lo < hi then
    let mid := lo + (hi - lo) / 2
    if key mid == target then some mid
    else if key mid < target then searchSorted key target (mid + 1) hi
    else searchSorted key target lo mid
  else none
termination_by hi - lo

/-- A map of characters to texts, sorted by character. -/
structure CharTable where
  entries : Array (Nat × List Char)

def entriesOf : List Char → List Char → List (Nat × List Char)
  | [], _ => []
  | '\t' :: rest, entry =>
    match entry.reverse with
    | k :: v => (k.toNat, v) :: entriesOf rest []
    | [] => entriesOf rest []
  | c :: rest, entry => entriesOf rest (c :: entry)

def CharTable.ofEntries (text : String) : CharTable :=
  ⟨(entriesOf text.toList []).toArray⟩

def CharTable.get? (t : CharTable) (c : Char) : Option (List Char) :=
  (searchSorted (fun i => (t.entries.getD i (0, [])).1) c.toNat 0 t.entries.size).map
    fun i => (t.entries.getD i (0, [])).2

/-- A map of pairs of characters to characters, sorted by pair. -/
structure PairTable where
  entries : Array (Nat × Char)
  firsts : Array Nat

def pairKey (a b : Nat) : Nat :=
  a * 0x110000 + b

def triplesOf : List Char → List (Nat × Char)
  | a :: b :: c :: rest => (pairKey a.toNat b.toNat, c) :: triplesOf rest
  | _ => []

def PairTable.ofTriples (text : String) : PairTable :=
  let entries := triplesOf text.toList
  ⟨entries.toArray, (entries.map (·.1 / 0x110000)).eraseDups.toArray⟩

def PairTable.get? (t : PairTable) (a b : Char) : Option Char :=
  (searchSorted (fun i => (t.entries.getD i (0, ' ')).1) (pairKey a.toNat b.toNat) 0
    t.entries.size).map fun i => (t.entries.getD i (0, ' ')).2

def PairTable.isFirst (t : PairTable) (a : Char) : Bool :=
  (searchSorted (fun i => t.firsts.getD i 0) a.toNat 0 t.firsts.size).isSome

def lastStartingBy (start : Nat → Nat) (n lo hi : Nat) : Nat :=
  if lo + 1 < hi then
    let mid := lo + (hi - lo) / 2
    if start mid ≤ n then lastStartingBy start n mid hi else lastStartingBy start n lo mid
  else lo
termination_by hi - lo

def inRanges (ranges : Array (Nat × Nat)) (n : Nat) : Bool :=
  let r := ranges.getD (lastStartingBy (fun i => (ranges.getD i (0, 0)).1) n 0 ranges.size) (1, 0)
  r.1 ≤ n && n ≤ r.2

def rangeValue (ranges : Array (Nat × Nat × Nat)) (n : Nat) : Nat :=
  let r := ranges.getD (lastStartingBy (fun i => (ranges.getD i (0, 0, 0)).1) n 0 ranges.size)
    (1, 0, 0)
  if r.1 ≤ n && n ≤ r.2.1 then r.2.2 else 0

end Weave.Text.Stringprep
