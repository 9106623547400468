import Weave.Yaml.Event
import Weave.Yaml.Resolve

/-! # YAML nodes

Events compose into a tree of nodes: scalars, sequences and mappings, each with a tag and
the mark where it starts. An anchor names the node it stands on, and a later alias stands
for that same node; an alias before its anchor, and an anchor given twice, are errors.
The anchor of a collection names it from its start, so an alias inside the collection
stands for the collection itself: a `cycle` node.
Each collection is numbered as it is made, so a node met again through an alias is known
to be the same one: that is how reading a document takes each node once, however often
aliases repeat it. A node without a tag takes the tag that its kind, and for a plain scalar its
text, implies (`impliedTag`). A stream must hold at most one document.
-/

namespace Weave.Yaml

/-- A YAML node. -/
inductive Node where
  | scalar (tag : String) (text : String) (start : Mark)
  | sequence (id : Nat) (tag : String) (items : List Node) (start : Mark)
  | mapping (id : Nat) (tag : String) (pairs : List (Node × Node)) (start : Mark)
  | cycle (id : Nat) (tag : String) (isMapping : Bool) (start : Mark)
deriving Inhabited

namespace Node

def tag : Node → String
  | scalar t .. | sequence _ t .. | mapping _ t .. | cycle _ t .. => t

def start : Node → Mark
  | scalar _ _ m | sequence _ _ _ m | mapping _ _ _ m | cycle _ _ _ m => m

def kindName : Node → String
  | scalar .. => "scalar"
  | sequence .. => "sequence"
  | mapping .. => "mapping"
  | cycle _ _ isMapping _ => if isMapping then "mapping" else "sequence"

end Node

/-- The state of composing: the parser, an event read ahead, the anchored nodes, and how
many collections have been made. -/
structure Events where
  parser : Parser
  pending : Option MarkedEvent
  anchors : List (String × Node)
  made : Nat

abbrev EventsM := EStateM YamlError Events

namespace Events

def peek : EventsM MarkedEvent := do
  let s ← get
  match s.pending with
  | some e => pure e
  | none =>
    match Parser.nextEvent.run s.parser with
    | .ok e p => set { s with parser := p, pending := some e }; pure e
    | .error e p => set { s with parser := p }; throw e

def next : EventsM MarkedEvent := do
  let e ← peek
  modify fun s => { s with pending := none }
  pure e

def anchorsOf : EventsM (List (String × Node)) := do
  pure (← get).anchors

def addAnchor (name : String) (n : Node) : EventsM Unit :=
  modify fun s => { s with anchors := (name, n) :: s.anchors }

def fresh : EventsM Nat := do
  let s ← get
  set { s with made := s.made + 1 }
  pure s.made

def checkAnchor (anchor : Option String) (m : Mark) : EventsM Unit := do
  if let some a := anchor then
    if let some (_, first) := (← anchorsOf).find? (·.1 == a) then
      throw (.marked (some ("found duplicate anchor " ++ quoteText a ++ "; first occurrence"))
        (some first.start) "second occurrence" (some m))

/-- Composes one node. -/
def composeNode : Nat → EventsM Node
  | 0 => do
    let e ← next
    pure (.scalar (standardTag "null") "" e.start)
  | fuel + 1 => do
    let e ← peek
    match e.event with
    | .aliasRef name =>
      discard next
      match (← anchorsOf).find? (·.1 == name) with
      | some (_, n) => pure n
      | none => throw (.marked none none ("found undefined alias " ++ quoteText name) (some e.start))
    | .scalar anchor tag plainImplicit text =>
      checkAnchor anchor e.start
      discard next
      let t := match tag with
        | some t => if t == "!" then (if plainImplicit then impliedTag text else standardTag "str") else t
        | none => if plainImplicit then impliedTag text else standardTag "str"
      let n := Node.scalar t text e.start
      if let some a := anchor then addAnchor a n
      pure n
    | .sequenceStart anchor tag =>
      checkAnchor anchor e.start
      discard next
      let t := match tag with
        | some t => if t == "!" then standardTag "seq" else t
        | none => standardTag "seq"
      let id ← fresh
      if let some a := anchor then addAnchor a (.cycle id t false e.start)
      let items ← composeItems fuel []
      let n := Node.sequence id t items e.start
      if let some a := anchor then addAnchor a n
      pure n
    | .mappingStart anchor tag =>
      checkAnchor anchor e.start
      discard next
      let t := match tag with
        | some t => if t == "!" then standardTag "map" else t
        | none => standardTag "map"
      let id ← fresh
      if let some a := anchor then addAnchor a (.cycle id t true e.start)
      let pairs ← composePairs fuel []
      let n := Node.mapping id t pairs e.start
      if let some a := anchor then addAnchor a n
      pure n
    | _ =>
      discard next
      pure (.scalar (standardTag "null") "" e.start)
where
  composeItems : Nat → List Node → EventsM (List Node)
    | 0, acc => pure acc.reverse
    | fuel + 1, acc => do
      if let .sequenceEnd := (← peek).event then
        discard next
        return acc.reverse
      let n ← composeNode fuel
      composeItems fuel (n :: acc)
  composePairs : Nat → List (Node × Node) → EventsM (List (Node × Node))
    | 0, acc => pure acc.reverse
    | fuel + 1, acc => do
      if let .mappingEnd := (← peek).event then
        discard next
        return acc.reverse
      let k ← composeNode fuel
      let v ← composeNode fuel
      composePairs fuel ((k, v) :: acc)

/-- Composes the single document of a stream; `none` when there is none. -/
def composeSingle : EventsM (Option Node) := do
  let fuel := (← get).parser.scanner.buffer.size * 8 + 64
  discard next
  let mut doc : Option Node := none
  if !(match (← peek).event with | .streamEnd => true | _ => false) then
    discard next
    let n ← composeNode fuel
    discard next
    modify fun s => { s with anchors := [] }
    doc := some n
  let e ← peek
  match e.event with
  | .streamEnd => pure doc
  | _ =>
    let docStart := (doc.map Node.start).getD e.start
    throw (.marked (some "expected a single document in the stream") (some docStart)
      "but found another document" (some e.start))

end Events

end Weave.Yaml
