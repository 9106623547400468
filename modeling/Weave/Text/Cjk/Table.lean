/-! # Tables of double-byte codes

The East Asian encodings write most characters as two bytes, a lead and a trail. A table
gives the character of each code it defines; a code is `lead * 256 + trail`, where the
bytes are taken as the encoding writes them or, for the national character sets of 94 rows
of 94 cells, as the row and cell each from `0x21` to `0x7E`.
-/

namespace Weave.Cjk

/-- A table of double-byte codes: the character of each code, a hole where it is
undefined. -/
structure CodeTable where
  cells : Array Char

def hole : Char := '\uFFFE'

def writeRun (cells : Array Char) (start : Nat) (chars : String) : Array Char :=
  (chars.toList.zipIdx).foldl (fun cells (c, i) =>
    if c == hole then cells else cells.setIfInBounds (start + i) c) cells

def CodeTable.ofRuns (runs : List (Nat × String)) : CodeTable :=
  ⟨runs.foldl (fun cells (start, chars) => writeRun cells start chars)
    (Array.replicate 65536 hole)⟩

def CodeTable.get? (t : CodeTable) (lead trail : Nat) : Option Char :=
  let c := t.cells.getD (lead * 256 + trail) hole
  if c == hole then none else some c

def CodeTable.defines (t : CodeTable) (lead trail : Nat) : Bool :=
  (t.get? lead trail).isSome

theorem CodeTable.get?_ofRuns_nil (lead trail : Nat) :
    (CodeTable.ofRuns []).get? lead trail = none := by
  simp only [CodeTable.ofRuns, List.foldl_nil, CodeTable.get?, Array.getD_eq_getD_getElem?,
    Array.getElem?_replicate]
  split <;> simp

end Weave.Cjk
