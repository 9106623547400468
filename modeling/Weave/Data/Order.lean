import Weave.Fault
import Weave.Text.Surrogate

/-! # Ordering document values

Values are ordered as the comparison `<` of the documents' language orders them: numbers
by their value, an integer against a binary64 number exactly, NaN below and above nothing;
texts by their code points, a stand-in by its surrogate's; and no other pair at all, which
is a fault naming the two sorts.
-/

namespace Weave

def intBelowFloat (m : Int) (y : Float) : Bool :=
  match Binary.parts y with
  | .nan => false
  | .infinite neg => !neg
  | .finite .. =>
    let t := (Binary.truncInt? y).getD 0
    if (Binary.exactInt? y).isSome then m < t
    else if y > 0 then m ≤ t else m < t

def floatBelowInt (x : Float) (n : Int) : Bool :=
  match Binary.parts x with
  | .nan => false
  | .infinite neg => neg
  | .finite .. =>
    let t := (Binary.truncInt? x).getD 0
    if (Binary.exactInt? x).isSome then t < n
    else if x > 0 then t < n else t ≤ n

def codesBelow : List Nat → List Nat → Bool
  | [], [] => false
  | [], _ :: _ => true
  | _ :: _, [] => false
  | a :: as, b :: bs => a < b || (a == b && codesBelow as bs)

def textCodes (s : String) : List Nat :=
  s.toList.map fun c => (Text.surrogate? c).getD c.toNat

/-- Whether `a < b` for two values, or the fault of two values with no order. -/
def Value.lessThan (a b : Value) : Except Fault Bool :=
  match a, b with
  | .str s, .str t => .ok (codesBelow (textCodes s) (textCodes t))
  | a, b =>
    match a.numeric?, b.numeric? with
    | some (.inl m), some (.inl n) => .ok (m < n)
    | some (.inr x), some (.inr y) => .ok (x < y)
    | some (.inl m), some (.inr y) => .ok (intBelowFloat m y)
    | some (.inr x), some (.inl n) => .ok (floatBelowInt x n)
    | _, _ => .error (.unordered a.typeName b.typeName)

section Sorting

variable {α ε : Type} (lt : α → α → Except ε Bool)

def runFrom (descending : Bool) (last : α) : List α → Except ε Nat
  | [] => .ok 0
  | x :: xs => do
    if (← lt x last) == descending then return (← runFrom descending x xs) + 1
    else return 0

def frontRun : List α → Except ε (Nat × Bool)
  | [] => .ok (0, false)
  | [_] => .ok (1, false)
  | a :: b :: rest => do
    let descending ← lt b a
    let more ← runFrom lt descending b rest
    return (more + 2, descending)

def insertPlace (sorted : Array α) (x : α) (lo hi : Nat) : Except ε Nat :=
  if h : lo < hi then do
    let p := lo + (hi - lo) / 2
    if (← lt x (sorted.getD p x)) then insertPlace sorted x lo p
    else insertPlace sorted x (p + 1) hi
  else .ok lo
termination_by hi - lo

def insertSorted (sorted : Array α) (x : α) : Except ε (Array α) := do
  let i ← insertPlace lt sorted x 0 sorted.size
  return (sorted.toList.take i ++ x :: sorted.toList.drop i).toArray

def sortBy (xs : List α) : Except ε (List α) := do
  let (n, descending) ← frontRun lt xs
  let run := if descending then (xs.take n).reverse else xs.take n
  let sorted ← (xs.drop n).foldlM (insertSorted lt) run.toArray
  return sorted.toList

end Sorting

theorem sortBy_nil {α ε : Type} (lt : α → α → Except ε Bool) : sortBy lt [] = .ok [] := rfl

end Weave
