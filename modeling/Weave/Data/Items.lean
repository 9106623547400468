import Weave.Fault

/-! # Walking through a value

Walking through a value visits the items of a list, tuple or set, the characters of a
text one at a time, the bytes of a byte string as numbers, and the keys of a mapping; any
other value cannot be walked through. A collection that holds itself is walked through
as its body.
-/

namespace Weave

def Value.items (v : Value) : Except Fault (List Value) :=
  match v.view with
  | .list vs | .tuple vs | .set vs => .ok vs
  | .str s => .ok (s.toList.map fun c => .str (String.singleton c))
  | .dict es => .ok (es.map Prod.fst)
  | .bytes data => .ok (data.map fun b => .int b.toNat)
  | v => .error (.notIterable v.typeName)

theorem Value.items_list (vs : List Value) : (Value.list vs).items = .ok vs := rfl

end Weave
