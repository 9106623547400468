import Weave.Yaml.Node
import Weave.Data.Json.Read
import Weave.Text.Lower
import Weave.Registry.Declaration
import Weave.Fault
import Weave.Text.Base64
import Weave.Data.Hashing

/-! # From YAML nodes to values

Each standard tag reads its node into a `Value`: null, booleans, integers, floats,
timestamps (as their text), texts, base64 binaries, sequences, mappings, sets (the keys
of a mapping), and ordered maps and pairs (sequences of one-entry mappings, read as a
list of key and value tuples). A mapping first takes in the
entries of its merge keys, its own entries after them so that they win; a key that is
itself a collection cannot be stored.
-/

namespace Weave.Yaml

/-- Why a YAML text gives no value: a report against the text, or a scalar that its type
cannot read. -/
inductive Failure where
  | yaml (e : YamlError)
  | value (f : Fault)
deriving Inhabited

def problemAt (problem : String) (n : Node) : Failure :=
  .yaml (.marked none none problem (some n.start))

def inMapping (m : Node) (problem : String) (at_ : Mark) : Failure :=
  .yaml (.marked (some "while constructing a mapping") (some m.start) problem (some at_))

/-- Reads an integer scalar: underscores are dropped, then a sign, then `0b`, `0x`, a
leading `0` for octal, `:` for base 60, or decimal, each read as `intOfTextIn` reads
it. -/
def yamlInt (text : String) : Except Fault Int := do
  let v := String.ofList (text.toList.filter (· != '_'))
  let (sign, v) : Int × String := match v.toList with
    | '-' :: r => (-1, String.ofList r)
    | '+' :: r => (1, String.ofList r)
    | _ => (1, v)
  match v.toList with
  | [] => throw .textIndexOutOfRange
  | ['0'] => pure 0
  | '0' :: 'b' :: r => return sign * (← intOfTextIn 2 (String.ofList r))
  | '0' :: 'x' :: r => return sign * (← intOfTextIn 16 (String.ofList r))
  | '0' :: _ => return sign * (← intOfTextIn 8 v)
  | cs =>
    if cs.contains ':' then
      let parts ← (v.splitOn ":").mapM intOfText
      let total := parts.reverse.foldl (fun (acc : Int × Int) d => (acc.1 + d * acc.2, acc.2 * 60)) (0, 1)
      return sign * total.1
    else return sign * (← intOfText v)

def sexagesimal (total : Float) (weight : Nat) : List Float → Except Fault Float
  | [] => .ok total
  | d :: ds =>
    match Binary.ofInt? weight with
    | some w => sexagesimal (total + d * w) (weight * 60) ds
    | none => .error .tooLargeForFloat

def floatBody (text : String) : Float × String :=
  let v := Text.lower (String.ofList (text.toList.filter (· != '_')))
  match v.toList with
  | '-' :: r => (-1, String.ofList r)
  | '+' :: r => (1, String.ofList r)
  | _ => (1, v)

def sharesNaN (text : String) : Bool :=
  (floatBody text).2 == ".nan"

/-- Reads a float scalar: underscores are dropped and letters lowered, then a sign,
`.inf`, `.nan`, `:` for base 60, or a decimal text read as `floatOfText` reads it. -/
def yamlFloat (text : String) : Except Fault Float := do
  let (sign, v) := floatBody text
  let inf : Float := scientific 1 400
  if text.toList.all (· == '_') then throw .textIndexOutOfRange
  if v == ".inf" then return sign * inf
  else if v == ".nan" then return inf - inf
  else if v.toList.contains ':' then
    let parts ← (v.splitOn ":").mapM floatOfText
    return sign * (← sexagesimal 0 1 parts.reverse)
  else return sign * (← floatOfText v)

/-- Reads a timestamp scalar into the date, or the date and time of day, it names. The
offset is checked first, as a length of time of less than a day either way; then the
date, then the time of day. -/
def timestampOfText (text : String) : Except Fault Value := do
  let some t := Timestamp.read? text | throw (.noAttribute "NoneType" "groupdict")
  let checkDate : Except Fault Unit := do
    if t.year == 0 then throw (.badTimestamp "year 0 is out of range")
    if t.month < 1 || t.month > 12 then throw (.badTimestamp "month must be in 1..12")
    if t.day < 1 || t.day > daysInMonth t.year t.month then
      throw (.badTimestamp "day is out of range for month")
  match t.time with
  | none =>
    checkDate
    return .date t.year t.month t.day
  | some (h, m, s) =>
    let digits := t.fraction.take 6 ++ List.replicate (6 - (t.fraction.take 6).length) '0'
    let micro := digits.foldl (fun n d => n * 10 + (d.toNat - '0'.toNat)) 0
    let offset : Option Int := match t.zone with
      | none => none
      | some none => some 0
      | some (some (neg, zh, zm)) =>
        let o : Int := zh * 3600 + zm * 60
        some (if neg then -o else o)
    if let some o := offset then
      if o ≤ -86400 || o ≥ 86400 then
        throw (.badTimestamp ("offset must be a timedelta strictly between " ++
          "-timedelta(hours=24) and timedelta(hours=24), not " ++ deltaLiteral o ++ "."))
    checkDate
    if h > 23 then throw (.badTimestamp "hour must be in 0..23")
    if m > 59 then throw (.badTimestamp "minute must be in 0..59")
    if s > 59 then throw (.badTimestamp "second must be in 0..59")
    return .dateTime t.year t.month t.day h m s micro offset

/-- Reads a scalar by its tag; `none` for a tag that reads collections or no tag known. -/
def scalarOfTag (tag text : String) : Option (Except Fault Value) :=
  if tag == standardTag "null" then some (.ok .null)
  else if tag == standardTag "bool" then
    let key := Text.lower text
    some (if ["yes", "true", "on"].contains key then .ok (.bool true)
      else if ["no", "false", "off"].contains key then .ok (.bool false)
      else .error (.missingKey key))
  else if tag == standardTag "int" then some ((yamlInt text).map Value.int)
  else if tag == standardTag "float" then some ((yamlFloat text).map Value.float)
  else if tag == standardTag "timestamp" then some (timestampOfText text)
  else if tag == standardTag "str" then some (.ok (.str text))
  else none

def bytesOfText (text : String) : Except String (List UInt8) :=
  match asciiRefusal? text with
  | some e => .error ("failed to convert base64 data into ascii: " ++ e.message)
  | none =>
    match Base64.decode text with
    | .ok data => .ok data
    | .error e => .error ("failed to decode base64 data: " ++ e.message)

def collectionTag (tag : String) : Bool :=
  ["seq", "map", "omap", "pairs", "set"].any fun t => tag == standardTag t

/-- How a node starts to be read: a value at once, or a collection whose entries are read
later. -/
inductive Start where
  | now (v : Value)
  | later
deriving Inhabited

def scalarTag (tag : String) : Bool :=
  ["null", "bool", "int", "float", "timestamp", "str", "binary"].any fun t => tag == standardTag t

/-- The text a node gives where a scalar is read: a scalar's own text, or for a mapping
the text that the value of its first `=` key gives. A mapping met again inside itself is
read from `nodes`; `fuel` stops a reading that goes round for ever. -/
def scalarText (nodes : List (Nat × Node)) : Nat → Node → Except Failure String
  | 0, _ => .error (.value .recursionLimit)
  | fuel + 1, n =>
    let whole := match n with
      | .cycle i .. => (nodes.lookup i).getD n
      | _ => n
    match whole with
    | .scalar _ text _ => .ok text
    | .mapping _ _ pairs _ =>
      match pairs.find? fun (k, _) => k.tag == standardTag "value" with
      | some (_, v) => scalarText nodes fuel v
      | none => .error (problemAt "expected a scalar node, but found mapping" n)
    | _ => .error (problemAt ("expected a scalar node, but found " ++ n.kindName) n)

def Node.retag (t : String) : Node → Node
  | .scalar _ text m => .scalar t text m
  | .sequence i _ items m => .sequence i t items m
  | .mapping i _ pairs m => .mapping i t pairs m
  | .cycle i _ isMapping m => .cycle i t isMapping m

abbrev Entries := List (Nat × List (Node × Node))

def Entries.of (es : Entries) : Node → List (Node × Node)
  | .mapping i _ pairs _ => (es.lookup i).getD pairs
  | _ => []

def Entries.put (es : Entries) (i : Nat) (pairs : List (Node × Node)) : Entries :=
  (i, pairs) :: es.filter (·.1 != i)

/-- A scalar node as merging has left it. Merging makes a `=` key a text key where it
stands in a mapping, and the node is one and the same wherever an alias repeats it, so a
`=` scalar whose key has been made a text key reads as a text from then on. -/
def Node.settled (es : Entries) (n : Node) : Node :=
  match n with
  | .scalar t _ m =>
    let madeText := es.any fun (_, pairs) => pairs.any fun (k, _) =>
      match k with
      | .scalar t' _ m' => t' == standardTag "str" && m' == m
      | _ => false
    if t == standardTag "value" && madeText then n.retag (standardTag "str") else n
  | _ => n

/-- Starts reading a node, with the collection nodes of its document by number and the
entries of its mappings as merging has left them so far. -/
def begin (nodes : List (Nat × Node)) (es : Entries) (node : Node) : Except Failure Start :=
  let n := node.settled es
  if collectionTag n.tag then .ok .later
  else if scalarTag n.tag then do
    let text ← scalarText nodes (nodes.length + 2) n
    let isScalar := match n with
      | .scalar .. => true
      | _ => false
    if n.tag == standardTag "binary" then
      match bytesOfText text with
      | .ok data => .ok (.now (.bytes data))
      | .error problem => .error (problemAt problem n)
    else if n.tag == standardTag "timestamp" && !isScalar then .error (.value .patternOnList)
    else
      match scalarOfTag n.tag text with
      | some (.ok v) => .ok (.now v)
      | some (.error f) => .error (.value f)
      | none => .ok (.now .null)
  else .error (problemAt ("could not determine a constructor for the tag " ++ quoteText n.tag) n)

def Node.id? : Node → Option Nat
  | .scalar .. => none
  | .sequence i .. | .mapping i .. | .cycle i .. => some i

def Node.whole (nodes : List (Nat × Node)) (n : Node) : Node :=
  match n with
  | .cycle i .. => (nodes.lookup i).getD n
  | _ => n

/-- Takes the merge keys of the mapping `m` into its entries, in place, from entry
`index` on, with the entries `taken` from merged mappings so far. Each merge key is
removed where it stands; then the mapping it names, or each mapping of the list it
names, has its own merge keys taken in, and its entries are taken, those of later
mappings of a list first. A `=` key becomes a text key. When all entries are passed, the
entries taken go before the mapping's own. The entries are read afresh at each step, so a
mapping merged while its own merging is under way, through an alias of an enclosing one,
is seen as that merging has left it. -/
def mergeFrom (nodes : List (Nat × Node)) :
    Nat → Node → Nat → List (Node × Node) → Entries → Except Failure Entries
  | 0, _, _, _, es => .ok es
  | fuel + 1, m, index, taken, es =>
    let i := m.id?.getD 0
    let now := es.of m
    match now[index]? with
    | none => .ok (if taken.isEmpty then es else es.put i (taken ++ now))
    | some (k, v) =>
      if k.tag == standardTag "merge" then
        let es := es.put i (now.eraseIdx index)
        match v.whole nodes with
        | w@(.mapping ..) => do
          let es ← mergeFrom nodes fuel w 0 [] es
          mergeFrom nodes fuel m index (taken ++ es.of w) es
        | .sequence _ _ items _ => do
          let step (acc : Entries × List (List (Node × Node))) (sub : Node) :
              Except Failure (Entries × List (List (Node × Node))) :=
            match sub.whole nodes with
            | w@(.mapping ..) => do
              let st ← mergeFrom nodes fuel w 0 [] acc.1
              pure (st, st.of w :: acc.2)
            | _ =>
              throw (inMapping m ("expected a mapping for merging, but found " ++ sub.kindName)
                sub.start)
          let (es, parts) ← items.foldlM step (es, [])
          mergeFrom nodes fuel m index (taken ++ parts.flatten) es
        | _ =>
          throw (inMapping m
            ("expected a mapping or list of mappings for merging, but found " ++ v.kindName)
            v.start)
      else if k.tag == standardTag "value" then
        mergeFrom nodes fuel m (index + 1) taken
          (es.put i (now.set index (k.retag (standardTag "str"), v)))
      else mergeFrom nodes fuel m (index + 1) taken es

/-- Reads the entries of a collection node whose reading has started, its merge keys
taken in with `fuel` steps: the first failure among them, or the collections among them
left for later, with the entries of the mappings as merging leaves them. -/
def finish (nodes : List (Nat × Node)) (fuel : Nat) (n : Node) (es : Entries) :
    Except Failure (List Node × Entries) := do
  let tag := n.tag
  if tag == standardTag "map" || tag == standardTag "set" then
    match n with
    | .mapping .. =>
      let es ← mergeFrom nodes fuel n 0 [] es
      let mut later : List Node := []
      for (k, v) in es.of n do
        match ← begin nodes es k with
        | .later => throw (inMapping n "found unhashable key" k.start)
        | .now _ => pure ()
        match ← begin nodes es v with
        | .later => later := later ++ [v]
        | .now _ => pure ()
      return (later, es)
    | _ => throw (problemAt ("expected a mapping node, but found " ++ n.kindName) n)
  else if tag == standardTag "seq" then
    match n with
    | .sequence _ _ items _ =>
      let mut later : List Node := []
      for item in items do
        match ← begin nodes es item with
        | .later => later := later ++ [item]
        | .now _ => pure ()
      return (later, es)
    | _ => throw (problemAt ("expected a sequence node, but found " ++ n.kindName) n)
  else
    let report (problem : String) (at_ : Mark) : Failure :=
      .yaml (.marked (some ("while constructing " ++
        (if tag == standardTag "omap" then "an ordered map" else "pairs"))) (some n.start)
        problem (some at_))
    match n with
    | .sequence _ _ items _ =>
      let mut later : List Node := []
      for item in items do
        match item.whole nodes with
        | w@(.mapping ..) =>
          match es.of w with
          | [(k, v)] =>
            for part in [k, v] do
              match ← begin nodes es part with
              | .later => later := later ++ [part]
              | .now _ => pure ()
          | pairs =>
            throw (report ("expected a single mapping item, but found " ++
              toString pairs.length ++ " items") item.start)
        | _ => throw (report ("expected a mapping of length 1, but found " ++ item.kindName) item.start)
      return (later, es)
    | _ => throw (report ("expected a sequence, but found " ++ n.kindName) n.start)

/-- The collections of a list not taken before, in order, and the numbers of all taken
after them. A collection met again is the one read already, so it is not read twice. A
scalar with the tag of a collection is kept: reading it fails. -/
def unseen (seen : List Nat) : List Node → List Nat × List Node
  | [] => (seen, [])
  | n :: rest =>
    match n.id? with
    | some i =>
      if seen.contains i then unseen seen rest
      else
        let (seen', fresh) := unseen (i :: seen) rest
        (seen', n :: fresh)
    | none =>
      let (seen', fresh) := unseen seen rest
      (seen', n :: fresh)

/-- Reads the collections of a node of a document with `size` collections level by level,
each once, merging with `fuel` steps: the first failure, or the entries of its mappings
with their merge keys taken in. -/
def settle (nodes : List (Nat × Node)) (size fuel : Nat) (n : Node) : Except Failure Entries :=
  match begin nodes [] n with
  | .error f => .error f
  | .ok (.now _) => .ok []
  | .ok .later => walk (size + 1) ((n.id?).toList) [n] []
where
  walk : Nat → List Nat → List Node → Entries → Except Failure Entries
    | 0, _, _, es => .ok es
    | _, _, [], es => .ok es
    | steps + 1, seen, level, es => do
      let step (acc : List Nat × List Node × Entries) (m : Node) :
          Except Failure (List Nat × List Node × Entries) := do
        let (later, es) ← finish nodes fuel (m.whole nodes) acc.2.2
        let (seen', fresh) := unseen acc.1 later
        pure (seen', acc.2.1 ++ fresh, es)
      let (seen', next, es') ← level.foldlM step (seen, [], es)
      walk steps seen' next es'

def Node.isMapping : Node → Bool
  | .mapping .. => true
  | .cycle _ _ isMapping _ => isMapping
  | _ => false

def Node.isCycle : Node → Bool
  | .cycle .. => true
  | _ => false

def Node.written : Node → List Node
  | .sequence _ _ items _ => items
  | .mapping _ _ pairs _ => pairs.flatMap fun (k, v) => [k, v]
  | _ => []

def gather : Nat → Node → List (Nat × Node) → List (Nat × Node)
  | 0, _, found => found
  | depth + 1, n, found =>
    match n.id?, n with
    | some i, .sequence .. | some i, .mapping .. =>
      if found.any (·.1 == i) then found
      else n.written.foldl (fun acc m => gather depth m acc) ((i, n) :: found)
    | _, _ => found

/-- The nodes whose values a collection holds, once its merge keys are taken in: items,
keys and values, and the two parts of each pair of an ordered map. A node read at once,
as a scalar, holds none. -/
def Node.held (nodes : List (Nat × Node)) (es : Entries) (n : Node) : List Node :=
  if !collectionTag n.tag then []
  else match n with
    | .sequence _ tag items _ =>
      if tag == standardTag "omap" || tag == standardTag "pairs" then
        items.flatMap fun item => match es.of (item.whole nodes) with
          | [(k, v)] => [k, v]
          | _ => []
      else items
    | .mapping .. => (es.of n).flatMap fun (k, v) => [k, v]
    | _ => []

def reachable (edges : List (Nat × List Nat)) : Nat → List Nat → List Nat → List Nat
  | 0, seen, _ => seen
  | _, seen, [] => seen
  | fuel + 1, seen, i :: todo =>
    if seen.contains i then reachable edges fuel seen todo
    else reachable edges fuel (i :: seen) (todo ++ (edges.lookup i).getD [])

/-- What reading the collections of a document needs: each collection node by its
number, the entries of its mappings with their merge keys taken in, and the collections
that hold themselves, directly or through others. -/
structure Graph where
  nodes : List (Nat × Node)
  entries : Entries
  cyclic : List Nat

/-- The graph of the collections of a document. Only an alias met inside the collection
it names closes a loop, so without one no collection holds itself. -/
def Graph.of (nodes : List (Nat × Node)) (es : Entries) : Graph :=
  let loops := nodes.any fun (_, n) => n.written.any Node.isCycle
  let edges := nodes.map fun (i, n) => (i, (n.held nodes es).filterMap Node.id?)
  let steps := edges.foldl (fun acc e => acc + e.2.length + 1) 1
  { nodes := nodes
    entries := es
    cyclic := if loops then
        edges.filterMap fun (i, ids) => if (reachable edges steps [] ids).contains i then some i else none
      else [] }

def Value.isNaN : Value → Bool
  | .float x => x != x
  | _ => false

def Node.nanOrigin (k : Node) : Option Mark :=
  match k with
  | .scalar t text m => if t == standardTag "float" && sharesNaN text then none else some m
  | _ => some k.start

/-- Stores an entry of a mapping under a key read as the NaN of `origin` if it is one, as
`Value.store` does, except for a NaN key: a NaN is the same key only as itself, the NaN
of the same origin (the one of every `.nan`, or that of one node met again through an alias
or a merge), and no other NaN. -/
def storeFrom (entries : List (Value × Value × Option Mark)) (k v : Value)
    (origin : Option Mark) : List (Value × Value × Option Mark) :=
  let same (e : Value × Value × Option Mark) : Bool :=
    if k.isNaN then e.1.isNaN && e.2.2 == origin else Value.sameKey e.1 k
  if entries.any same then entries.map fun e => if same e then (e.1, v, e.2.2) else e
  else entries ++ [(k, v, origin)]

/-- Reads a node into a value; the node is known to read without failure. A collection
that holds itself is, unless `whole` asks for its body, the collection of the finished
`heap`, or while the heap is read a reference to it by its number. Any other collection
read before is the value it gave then, so it is read once however often aliases repeat
it. -/
def build (g : Graph) (heap : Option (List (Nat × Value))) :
    Nat → Bool → Node → StateM (List (Nat × Value)) Value
  | 0, _, _ => pure .null
  | fuel + 1, whole, n =>
    match begin g.nodes g.entries n, n.id? with
    | .ok (.now v), _ => pure v
    | .error _, _ | _, none => pure .null
    | .ok .later, some i => do
      if g.cyclic.contains i && !whole then
        return match heap with
          | some h => .cyclic h i
          | none => .reference i
      if let some v := (← get).lookup i then return v
      let v ← match n.whole g.nodes with
        | .sequence _ tag items _ =>
          if tag == standardTag "omap" || tag == standardTag "pairs" then
            let entries ← items.mapM fun item => match g.entries.of (item.whole g.nodes) with
              | [(k, v)] => do
                let kv ← build g heap fuel false k
                let vv ← build g heap fuel false v
                pure (Value.tuple [kv, vv])
              | _ => pure .null
            pure (.list entries)
          else pure (.list (← items.mapM (build g heap fuel false)))
        | m@(.mapping _ tag _ _) =>
          let mut entries : List (Value × Value × Option Mark) := []
          for (k, v) in g.entries.of m do
            let kv ← build g heap fuel false k
            let vv ← build g heap fuel false v
            entries := storeFrom entries kv vv k.nanOrigin
          let pairs := entries.map fun (k, v, _) => (k, v)
          pure (if tag == standardTag "set" then .set (setOrder (pairs.map Prod.fst)) else .dict pairs)
        | _ => pure .null
      if !whole then modify ((i, v) :: ·)
      pure v

/-- Reads a node of a document with `size` collections into a value, or the first failure
in reading it. The collections that hold themselves are read first, into a heap of
bodies; the value holds them by that heap. -/
def construct (size : Nat) (n : Node) : Except Failure Value := do
  let nodes := gather (size + 1) n []
  let pairs := nodes.foldl (fun acc (_, m) => acc + m.written.length) 0
  let es ← settle nodes size ((pairs + 2) * (size + 2)) n
  let g := Graph.of nodes es
  let bodies : StateM (List (Nat × Value)) (List (Nat × Value)) :=
    g.cyclic.mapM fun i => do
      pure (i, ← build g none (size + 2) true ((g.nodes.lookup i).getD n))
  let heap := (bodies.run []).1
  return ((build g (some heap) (size + 2) false n).run []).1

end Weave.Yaml
