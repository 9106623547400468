/-! # Character classes as ranges

A class of characters is a sorted array of disjoint closed ranges of code points;
membership is found by halving the part of the array still in question.
-/

namespace Weave.Text

/-- Whether `n` lies in one of the sorted, disjoint closed ranges `rs[lo:hi]`. -/
def inRanges (rs : Array (Nat × Nat)) (n : Nat) (lo hi : Nat) : Bool :=
  if lo < hi then
    let mid := (lo + hi) / 2
    match rs[mid]? with
    | some (a, b) =>
      if n < a then inRanges rs n lo mid
      else if b < n then inRanges rs n (mid + 1) hi
      else true
    | none => false
  else false
termination_by hi - lo

end Weave.Text
