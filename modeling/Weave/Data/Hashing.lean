import Weave.Data.Value
import Weave.Text.Surrogate

/-! # Hashes and the order of a set

A set of the documents' language keeps its items in a table of slots and walks them in
slot order, so the order of a set is where its items' hashes put them. A number hashes to
its value modulo the prime `2^61 - 1`: an integer `n` to `± (|n| mod p)`, a finite binary64
number `± m · 2^q` to `± (m · 2^(q mod 61) mod p)` (as `2^61 = 1` modulo `p`), so equal
numbers hash alike; an infinity hashes to `± 314159`, and `-1`, kept for failures, becomes
`-2`.
-/

namespace Weave

def hashModulus : Nat := Binary.twoPow 61 - 1

def avoidFailureHash (h : Int) : Int :=
  if h = -1 then -2 else h

def intHash (n : Int) : Int :=
  let r : Int := (n.natAbs % hashModulus : Nat)
  avoidFailureHash (if n < 0 then -r else r)

def floatHash? (x : Float) : Option Int :=
  match Binary.parts x with
  | .nan => none
  | .infinite neg => some (if neg then -314159 else 314159)
  | .finite neg m q =>
    let r : Int := (m * Binary.twoPow (q % 61).toNat % hashModulus : Nat)
    some (avoidFailureHash (if neg then -r else r))

def rotateLeft (x b : UInt64) : UInt64 :=
  (x <<< b) ||| (x >>> (64 - b))

/-- The four words of SipHash. -/
structure SipState where
  v0 : UInt64
  v1 : UInt64
  v2 : UInt64
  v3 : UInt64

/-- One round of SipHash. -/
def SipState.round (s : SipState) : SipState :=
  let v0 := s.v0 + s.v1
  let v2 := s.v2 + s.v3
  let v1 := rotateLeft s.v1 13 ^^^ v0
  let v3 := rotateLeft s.v3 16 ^^^ v2
  let v0 := rotateLeft v0 32
  let v2 := v2 + v1
  let v0 := v0 + v3
  let v1 := rotateLeft v1 17 ^^^ v2
  let v3 := rotateLeft v3 21 ^^^ v0
  ⟨v0, v1, rotateLeft v2 32, v3⟩

def SipState.absorb (s : SipState) (m : UInt64) : SipState :=
  let s := { s with v3 := s.v3 ^^^ m }.round
  { s with v0 := s.v0 ^^^ m }

def wordOf (bytes : List UInt8) : UInt64 :=
  bytes.foldr (fun b acc => (acc <<< 8) ||| b.toUInt64) 0

def SipState.absorbWords (s : SipState) (bytes : List UInt8) : SipState × List UInt8 :=
  if 8 ≤ bytes.length then (s.absorb (wordOf (bytes.take 8))).absorbWords (bytes.drop 8)
  else (s, bytes)
termination_by bytes.length

def sipHash13 (bytes : List UInt8) : UInt64 :=
  let start : SipState := ⟨0x736f6d6570736575, 0x646f72616e646f6d, 0x6c7967656e657261,
    0x7465646279746573⟩
  let (s, rest) := start.absorbWords bytes
  let s := s.absorb ((bytes.length.toUInt64 <<< 56) ||| wordOf rest)
  let s := { s with v2 := s.v2 ^^^ 0xff }.round.round.round
  s.v0 ^^^ s.v1 ^^^ s.v2 ^^^ s.v3

def signedWord (x : UInt64) : Int :=
  if x.toNat < Binary.twoPow 63 then x.toNat else (x.toNat : Int) - Binary.twoPow 64

def bytesHash (bytes : List UInt8) : Int :=
  if bytes.isEmpty then 0 else avoidFailureHash (signedWord (sipHash13 bytes))

def littleEndian (width n : Nat) : List UInt8 :=
  (List.range width).map fun i => (n / Binary.twoPow (8 * i)).toUInt8

def textHash (s : String) : Int :=
  let codes := s.toList.map fun c => (Text.surrogate? c).getD c.toNat
  let top := codes.foldl max 0
  let width := if top < 256 then 1 else if top < 65536 then 2 else 4
  bytesHash (codes.flatMap (littleEndian width))

def tuplePrime1 : UInt64 := 11400714785074694791
def tuplePrime2 : UInt64 := 14029467366897019727
def tuplePrime5 : UInt64 := 2870177450012600261

def tupleHash (hashes : List Int) : Int :=
  let acc := hashes.foldl (fun acc h =>
    rotateLeft (acc + (Int.toNat (h % (Binary.twoPow 64 : Int))).toUInt64 * tuplePrime2) 31 *
      tuplePrime1) tuplePrime5
  let acc := acc + (hashes.length.toUInt64 ^^^ (tuplePrime5 ^^^ 3527539))
  if acc == 0xFFFFFFFFFFFFFFFF then 1546275796 else signedWord acc

def epochOrdinal : Int := 719163

def instantHash (year month day hour minute second micro : Nat) (offset : Int) : Int :=
  let total := (daysOfCivil year month day + epochOrdinal) * 86400 +
    (hour * 3600 + minute * 60 + second : Nat) - offset
  tupleHash [intHash (total / 86400), intHash (total % 86400), intHash micro]

def placeHash (place : UInt64) : Int :=
  avoidFailureHash (signedWord ((place >>> 4) ||| (place <<< 60)))

def nullPlace : UInt64 := 0x7f379790a4f0

def nanPlace : UInt64 := 0x7ff0a666d8b0

/-- The hash of a value, or none for a collection, which has none. -/
def Value.hash? : Value → Option Int
  | .null => some (placeHash nullPlace)
  | .bool b => some (if b then 1 else 0)
  | .int n => some (intHash n)
  | .float x => if x != x then some (placeHash nanPlace) else floatHash? x
  | .str s => some (textHash s)
  | .bytes data => some (bytesHash data)
  | .date y m d => some (bytesHash [(y / 256).toUInt8, y.toUInt8, m.toUInt8, d.toUInt8])
  | .dateTime y m d h i s u none =>
    some (bytesHash ([(y / 256).toUInt8, y.toUInt8, m.toUInt8, d.toUInt8, h.toUInt8, i.toUInt8,
      s.toUInt8, (u / 65536).toUInt8, (u / 256).toUInt8, u.toUInt8]))
  | .dateTime y m d h i s u (some o) => some (instantHash y m d h i s u o)
  | _ => none

abbrev Slots := Array (Option (Nat × Value))

def probeRun (mask i : Nat) : List Nat :=
  if i + 9 ≤ mask then (List.range 10).map (i + ·) else [i]

/-- The first empty slot of a probe sequence at slot `i` with the perturbation `perturb`.
Once `perturb` is zero the jumps `i ↦ 5 i + 1` visit every slot, so `fuel` of the table
size and the thirteen jumps that empty `perturb` always reaches one while a slot is
empty. -/
def emptySlot (slots : Slots) (mask : Nat) : Nat → Nat → Nat → Nat
  | 0, i, _ => i
  | fuel + 1, i, perturb =>
    match (probeRun mask i).find? fun j => (slots.getD j none).isNone with
    | some j => j
    | none =>
      let perturb := perturb / 32
      emptySlot slots mask fuel ((i * 5 + 1 + perturb) % (mask + 1)) perturb

def placeItem (slots : Slots) (h : Nat) (v : Value) : Slots :=
  let mask := slots.size - 1
  slots.setIfInBounds (emptySlot slots mask (slots.size + 16) (h % (mask + 1)) h) (some (h, v))

def tableSize (used : Nat) : Nat :=
  max 8 (Binary.twoPow (Nat.log2 used + 1))

def regrow (slots : Slots) (used : Nat) : Slots :=
  slots.foldl (fun t e => match e with | some (h, v) => placeItem t h v | none => t)
    (Array.replicate (tableSize used) none)

def fillTable (start : Slots) (items : List (Nat × Value)) : Slots :=
  let step := fun (acc : Slots × Nat) (item : Nat × Value) =>
    let (t, fill) := acc
    let t := placeItem t item.1 item.2
    let fill := fill + 1
    if fill * 5 < (t.size - 1) * 3 then (t, fill)
    else (regrow t (if fill > 50000 then fill * 2 else fill * 4), fill)
  (items.foldl step (start, 0)).1

def unsignedHash (h : Int) : Nat :=
  (h % (Binary.twoPow 64 : Int)).toNat

def Slots.walk (slots : Slots) : List Value :=
  slots.toList.filterMap (·.map Prod.snd)

def setOrder (keys : List Value) : List Value :=
  let n := keys.length
  let start : Slots := Array.replicate (if n * 5 ≥ 7 * 3 then tableSize (2 * n) else 8) none
  match keys.mapM Value.hash? with
  | some hs => (fillTable start ((hs.map unsignedHash).zip keys)).walk
  | none => keys

def addedSetOrder (items : List Value) : List Value :=
  match items.mapM Value.hash? with
  | some hs => (fillTable (Array.replicate 8 none) ((hs.map unsignedHash).zip items)).walk
  | none => items

theorem setOrder_nil : setOrder [] = [] := rfl

end Weave
