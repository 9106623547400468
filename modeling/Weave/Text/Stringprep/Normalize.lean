import Weave.Text.Stringprep.Decomposition
import Weave.Text.Stringprep.Composition

/-! # Compatibility normalization

The normal form KC of a text as string preparation computes it: every character is replaced
by its compatibility decomposition of Unicode 3.2, each run of non-starters is put in order
of combining class, keeping equal classes in their order, and then characters are composed.
-/

namespace Weave.Text.Stringprep

def combiningClasses : Array (Nat × Nat × Nat) :=
  combiningRuns.toArray

def combiningClass (c : Char) : Nat :=
  rangeValue combiningClasses c.toNat

def syllableBase : Nat := 0xAC00

def leadBase : Nat := 0x1100
def vowelBase : Nat := 0x1161
def trailBase : Nat := 0x11A7

def decomposeChar (c : Char) : List Char :=
  let n := c.toNat
  if syllableBase ≤ n && n < syllableBase + 11172 then
    let s := n - syllableBase
    let t := trailBase + s % 28
    [Char.ofNat (leadBase + s / 588), Char.ofNat (vowelBase + s % 588 / 28)] ++
      (if t == trailBase then [] else [Char.ofNat t])
  else (decompositions.get? c).getD [c]

def orderRun (run : List Char) : List Char :=
  run.mergeSort fun a b => combiningClass a ≤ combiningClass b

def canonicalOrder (run : List Char) : List Char → List Char
  | [] => orderRun run.reverse
  | c :: cs =>
    if combiningClass c == 0 then orderRun run.reverse ++ c :: canonicalOrder [] cs
    else canonicalOrder (c :: run) cs

def decomposeText (cs : List Char) : List Char :=
  canonicalOrder [] (cs.flatMap decomposeChar)

section Composing

variable (table : PairTable) (data : Array Char)

def charAt (i : Nat) : Char :=
  data.getD i ' '

/-- Composes the starter `cur` with the characters from place `i` on by the pairs of
`table`; `blocking` is the combining class of the last character passed over, 0 when none.
Gives the composite and the places of the characters it took in. -/
def absorb (cur : Char) (i blocking : Nat) (taken : List Nat) : Char × List Nat :=
  if _h : i < data.size then
    let next := charAt data i
    let cls := combiningClass next
    if blocking != 0 && cls == 0 then (cur, taken)
    else if blocking != 0 && blocking ≥ cls then absorb cur (i + 1) blocking taken
    else match table.get? cur next with
      | some composite =>
        if table.isFirst composite then absorb composite (i + 1) blocking (i :: taken)
        else (composite, i :: taken)
      | none =>
        if cls == 0 then (cur, taken) else absorb cur (i + 1) cls taken
  else (cur, taken)
termination_by data.size - i
decreasing_by all_goals omega

def isLead (c : Char) : Bool := leadBase ≤ c.toNat && c.toNat < leadBase + 19
def isVowel (c : Char) : Bool := vowelBase ≤ c.toNat && c.toNat < vowelBase + 21
def isTrail (c : Char) : Bool := trailBase < c.toNat && c.toNat < trailBase + 28

/-- Composes the characters from place `i` on by the pairs of `table`; `taken` holds the places already composed
into an earlier character, and `out` the characters so far, last first. -/
def composeFrom (i : Nat) (taken : List Nat) (out : List Char) : List Char :=
  if _h : i < data.size then
    if taken.contains i then composeFrom (i + 1) (taken.erase i) out
    else
      let c := charAt data i
      if isLead c && i + 1 < data.size && isVowel (charAt data (i + 1)) then
        let s := syllableBase +
          ((c.toNat - leadBase) * 21 + ((charAt data (i + 1)).toNat - vowelBase)) * 28
        if i + 2 < data.size && isTrail (charAt data (i + 2)) then
          composeFrom (i + 3) taken
            (Char.ofNat (s + (charAt data (i + 2)).toNat - trailBase) :: out)
        else composeFrom (i + 2) taken (Char.ofNat s :: out)
      else if table.isFirst c then
        let (composite, taken) := absorb table data c (i + 1) 0 taken
        composeFrom (i + 1) taken (composite :: out)
      else composeFrom (i + 1) taken (c :: out)
  else out.reverse
termination_by data.size - i
decreasing_by all_goals omega

end Composing

def normalizeKC (cs : List Char) : List Char :=
  composeFrom compositions (decomposeText cs).toArray 0 [] []

end Weave.Text.Stringprep
