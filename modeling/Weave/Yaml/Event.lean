import Weave.Yaml.Scanner

/-! # YAML events

The tokens of a YAML text read as a stream of events: documents, and inside them
scalars, aliases, and the starts and ends of sequences and mappings. The reading is a
state machine with a stack of states to return to; a missing node is an empty scalar.
Tag handles are expanded here: `!` stays itself and `!!` stands for
`tag:yaml.org,2002:`, unless directives say otherwise.
-/

namespace Weave.Yaml

/-- A YAML event. -/
inductive Event where
  | streamStart
  | streamEnd
  | documentStart (explicit : Bool)
  | documentEnd (explicit : Bool)
  | aliasRef (anchor : String)
  | scalar (anchor tag : Option String) (plainImplicit : Bool) (text : String)
  | sequenceStart (anchor tag : Option String)
  | sequenceEnd
  | mappingStart (anchor tag : Option String)
  | mappingEnd
deriving Inhabited

/-- An event with the marks where it starts and ends. -/
structure MarkedEvent where
  event : Event
  start : Mark
  stop : Mark
deriving Inhabited

/-- What the reader of events expects next. -/
inductive ParseState where
  | streamStart
  | implicitDocumentStart
  | documentStart
  | documentEnd
  | documentContent
  | blockNode
  | blockSequenceEntry (first : Bool)
  | indentlessSequenceEntry
  | blockMappingKey (first : Bool)
  | blockMappingValue
  | flowSequenceEntry (first : Bool)
  | flowSequenceEntryMappingKey
  | flowSequenceEntryMappingValue
  | flowSequenceEntryMappingEnd
  | flowMappingKey (first : Bool)
  | flowMappingValue
  | flowMappingEmptyValue
  | finished
deriving Inhabited

/-- The state of the reader of events. -/
structure Parser where
  scanner : Scanner
  state : ParseState
  states : List ParseState
  marks : List Mark
  tagHandles : List (String × String)

abbrev ParseM := EStateM YamlError Parser

namespace Parser

def defaultHandles : List (String × String) :=
  [("!", "!"), ("!!", "tag:yaml.org,2002:")]

def start (text : String) : Parser :=
  ⟨Scanner.start text, .streamStart, [], [], defaultHandles⟩

def scan {α : Type} (m : ScanM α) : ParseM α := do
  let p ← get
  match m.run p.scanner with
  | .ok a s => set { p with scanner := s }; pure a
  | .error e s => set { p with scanner := s }; throw e

def peekToken : ParseM Marked := scan Scanner.peekToken
def nextToken : ParseM Marked := scan Scanner.nextToken

def check (p : Token → Bool) : ParseM Bool := do
  pure (p (← peekToken).token)

def goTo (s : ParseState) : ParseM Unit :=
  modify fun p => { p with state := s }

def popState : ParseM Unit :=
  modify fun p => match p.states with
    | s :: rest => { p with state := s, states := rest }
    | [] => { p with state := .finished }

def pushState (s : ParseState) : ParseM Unit :=
  modify fun p => { p with states := s :: p.states }

def pushMark (m : Mark) : ParseM Unit :=
  modify fun p => { p with marks := m :: p.marks }

def popMark : ParseM Unit :=
  modify fun p => { p with marks := p.marks.drop 1 }

def topMark : ParseM (Option Mark) := do
  pure (← get).marks.head?

def fail {α : Type} (context : Option String) (contextMark : Option Mark) (problem : String)
    (problemMark : Option Mark) : ParseM α :=
  throw (.marked context contextMark problem problemMark)

def emptyScalar (m : Mark) : MarkedEvent :=
  ⟨.scalar none none true "", m, m⟩

/-- Reads the directives before a document and sets its tag handles. -/
def processDirectives : ParseM Unit := do
  let rec go : Nat → Option (Nat × Nat) → List (String × String) → ParseM (List (String × String))
    | 0, _, hs => pure hs
    | n + 1, version, hs => do
      let t ← peekToken
      match t.token with
      | .directive name value =>
        discard nextToken
        if name == "YAML" then
          if version.isSome then fail none none "found duplicate YAML directive" (some t.start)
          match value with
          | .version major minor =>
            if major != 1 then
              fail none none "found incompatible YAML document (version 1.* is required)" (some t.start)
            go n (some (major, minor)) hs
          | _ => go n version hs
        else if name == "TAG" then
          match value with
          | .tagPrefix handle pre =>
            if hs.any (·.1 == handle) then
              fail none none ("duplicate tag handle " ++ quoteText handle) (some t.start)
            go n version (hs ++ [(handle, pre)])
          | _ => go n version hs
        else go n version hs
      | _ => pure hs
  let hs ← go ((← get).scanner.buffer.size + 1) none []
  let withDefaults := hs ++ defaultHandles.filter fun d => !hs.any (·.1 == d.1)
  modify fun p => { p with tagHandles := withDefaults }

def isBlockEntry : Token → Bool | .blockEntry => true | _ => false
def isBlockEnd : Token → Bool | .blockEnd => true | _ => false
def isKey : Token → Bool | .key => true | _ => false
def isValue : Token → Bool | .value => true | _ => false
def isFlowEntry : Token → Bool | .flowEntry => true | _ => false
def isFlowSequenceEnd : Token → Bool | .flowSequenceEnd => true | _ => false
def isFlowMappingEnd : Token → Bool | .flowMappingEnd => true | _ => false
def isDocumentBound : Token → Bool
  | .directive .. | .documentStart | .streamEnd => true
  | _ => false

/-- Reads a node: an alias, or properties followed by a scalar, a collection start or
nothing. -/
def parseNode (block indentlessSequence : Bool) : ParseM MarkedEvent := do
  let first ← peekToken
  if let .aliasRef name := first.token then
    discard nextToken
    popState
    return ⟨.aliasRef name, first.start, first.stop⟩
  let mut anchor : Option String := none
  let mut tag : Option (Option String × String) := none
  let mut startMark : Option Mark := none
  let mut endMark : Option Mark := none
  let mut tagMark : Option Mark := none
  match first.token with
  | .anchor name =>
    discard nextToken
    startMark := some first.start
    endMark := some first.stop
    anchor := some name
    let t ← peekToken
    if let .tag h s := t.token then
      discard nextToken
      tagMark := some t.start
      endMark := some t.stop
      tag := some (h, s)
  | .tag h s =>
    discard nextToken
    startMark := some first.start
    tagMark := some first.start
    endMark := some first.stop
    tag := some (h, s)
    let t ← peekToken
    if let .anchor name := t.token then
      discard nextToken
      endMark := some t.stop
      anchor := some name
  | _ => pure ()
  let mut fullTag : Option String := none
  if let some (handle, suffix) := tag then
    match handle with
    | some h =>
      match (← get).tagHandles.find? (·.1 == h) with
      | some (_, pre) => fullTag := some (pre ++ suffix)
      | none =>
        fail (some "while parsing a node") startMark
          ("found undefined tag handle " ++ quoteText h) tagMark
    | none => fullTag := some suffix
  let next ← peekToken
  let startM := startMark.getD next.start
  let endM := endMark.getD next.start
  let implicit := fullTag.isNone || fullTag == some "!"
  if indentlessSequence && isBlockEntry next.token then
    goTo .indentlessSequenceEntry
    return ⟨.sequenceStart anchor fullTag, startM, next.stop⟩
  match next.token with
  | .scalar text plain _ =>
    discard nextToken
    popState
    let plainImplicit := (plain && fullTag.isNone) || fullTag == some "!"
    return ⟨.scalar anchor fullTag plainImplicit text, startM, next.stop⟩
  | .flowSequenceStart =>
    goTo (.flowSequenceEntry true)
    return ⟨.sequenceStart anchor fullTag, startM, next.stop⟩
  | .flowMappingStart =>
    goTo (.flowMappingKey true)
    return ⟨.mappingStart anchor fullTag, startM, next.stop⟩
  | .blockSequenceStart =>
    if block then
      goTo (.blockSequenceEntry true)
      return ⟨.sequenceStart anchor fullTag, startM, next.start⟩
  | .blockMappingStart =>
    if block then
      goTo (.blockMappingKey true)
      return ⟨.mappingStart anchor fullTag, startM, next.start⟩
  | _ => pure ()
  if anchor.isSome || fullTag.isSome then
    popState
    return ⟨.scalar anchor fullTag implicit "", startM, endM⟩
  fail (some ("while parsing a " ++ (if block then "block" else "flow") ++ " node")) (some startM)
    ("expected the node content, but found " ++ quoteText next.token.id) (some next.start)

/-- The next event. -/
def nextEvent : ParseM MarkedEvent := do
  match (← get).state with
  | .streamStart =>
    let t ← nextToken
    goTo .implicitDocumentStart
    pure ⟨.streamStart, t.start, t.stop⟩
  | .implicitDocumentStart =>
    let t ← peekToken
    if !isDocumentBound t.token then
      modify fun p => { p with tagHandles := defaultHandles }
      pushState .documentEnd
      goTo .blockNode
      pure ⟨.documentStart false, t.start, t.start⟩
    else
      goTo .documentStart
      nextEventAfterStart
  | .documentStart => nextEventAfterStart
  | .documentEnd =>
    let t ← peekToken
    if let .documentEnd := t.token then
      discard nextToken
      goTo .documentStart
      pure ⟨.documentEnd true, t.start, t.stop⟩
    else
      goTo .documentStart
      pure ⟨.documentEnd false, t.start, t.start⟩
  | .documentContent =>
    let t ← peekToken
    match t.token with
    | .directive .. | .documentStart | .documentEnd | .streamEnd =>
      popState
      pure (emptyScalar t.start)
    | _ => parseNode true false
  | .blockNode => parseNode true false
  | .blockSequenceEntry first =>
    if first then
      let t ← nextToken
      pushMark t.start
    let t ← peekToken
    if isBlockEntry t.token then
      discard nextToken
      let n ← peekToken
      if !(isBlockEntry n.token || isBlockEnd n.token) then
        pushState (.blockSequenceEntry false)
        parseNode true false
      else
        goTo (.blockSequenceEntry false)
        pure (emptyScalar t.stop)
    else if !isBlockEnd t.token then
      fail (some "while parsing a block collection") (← topMark)
        ("expected <block end>, but found " ++ quoteText t.token.id) (some t.start)
    else
      discard nextToken
      popState
      popMark
      pure ⟨.sequenceEnd, t.start, t.stop⟩
  | .indentlessSequenceEntry =>
    let t ← peekToken
    if isBlockEntry t.token then
      discard nextToken
      let n ← peekToken
      if !(isBlockEntry n.token || isKey n.token || isValue n.token || isBlockEnd n.token) then
        pushState .indentlessSequenceEntry
        parseNode true false
      else
        goTo .indentlessSequenceEntry
        pure (emptyScalar t.stop)
    else
      popState
      pure ⟨.sequenceEnd, t.start, t.start⟩
  | .blockMappingKey first =>
    if first then
      let t ← nextToken
      pushMark t.start
    let t ← peekToken
    if isKey t.token then
      discard nextToken
      let n ← peekToken
      if !(isKey n.token || isValue n.token || isBlockEnd n.token) then
        pushState .blockMappingValue
        parseNode true true
      else
        goTo .blockMappingValue
        pure (emptyScalar t.stop)
    else if !isBlockEnd t.token then
      fail (some "while parsing a block mapping") (← topMark)
        ("expected <block end>, but found " ++ quoteText t.token.id) (some t.start)
    else
      discard nextToken
      popState
      popMark
      pure ⟨.mappingEnd, t.start, t.stop⟩
  | .blockMappingValue =>
    let t ← peekToken
    if isValue t.token then
      discard nextToken
      let n ← peekToken
      if !(isKey n.token || isValue n.token || isBlockEnd n.token) then
        pushState (.blockMappingKey false)
        parseNode true true
      else
        goTo (.blockMappingKey false)
        pure (emptyScalar t.stop)
    else
      goTo (.blockMappingKey false)
      pure (emptyScalar t.start)
  | .flowSequenceEntry first =>
    if first then
      let t ← nextToken
      pushMark t.start
    let t ← peekToken
    if !isFlowSequenceEnd t.token then
      if !first then
        if isFlowEntry t.token then discard nextToken
        else
          fail (some "while parsing a flow sequence") (← topMark)
            ("expected ',' or ']', but got " ++ quoteText t.token.id) (some t.start)
      let t ← peekToken
      if isKey t.token then
        goTo .flowSequenceEntryMappingKey
        return ⟨.mappingStart none none, t.start, t.stop⟩
      else if !isFlowSequenceEnd t.token then
        pushState (.flowSequenceEntry false)
        return ← parseNode false false
    let t ← nextToken
    popState
    popMark
    pure ⟨.sequenceEnd, t.start, t.stop⟩
  | .flowSequenceEntryMappingKey =>
    let t ← nextToken
    let n ← peekToken
    if !(isValue n.token || isFlowEntry n.token || isFlowSequenceEnd n.token) then
      pushState .flowSequenceEntryMappingValue
      parseNode false false
    else
      goTo .flowSequenceEntryMappingValue
      pure (emptyScalar t.stop)
  | .flowSequenceEntryMappingValue =>
    let t ← peekToken
    if isValue t.token then
      discard nextToken
      let n ← peekToken
      if !(isFlowEntry n.token || isFlowSequenceEnd n.token) then
        pushState .flowSequenceEntryMappingEnd
        parseNode false false
      else
        goTo .flowSequenceEntryMappingEnd
        pure (emptyScalar t.stop)
    else
      goTo .flowSequenceEntryMappingEnd
      pure (emptyScalar t.start)
  | .flowSequenceEntryMappingEnd =>
    goTo (.flowSequenceEntry false)
    let t ← peekToken
    pure ⟨.mappingEnd, t.start, t.start⟩
  | .flowMappingKey first =>
    if first then
      let t ← nextToken
      pushMark t.start
    let t ← peekToken
    if !isFlowMappingEnd t.token then
      if !first then
        if isFlowEntry t.token then discard nextToken
        else
          fail (some "while parsing a flow mapping") (← topMark)
            ("expected ',' or '\x7d', but got " ++ quoteText t.token.id) (some t.start)
      let t ← peekToken
      if isKey t.token then
        discard nextToken
        let n ← peekToken
        if !(isValue n.token || isFlowEntry n.token || isFlowMappingEnd n.token) then
          pushState .flowMappingValue
          return ← parseNode false false
        else
          goTo .flowMappingValue
          return emptyScalar t.stop
      else if !isFlowMappingEnd t.token then
        pushState .flowMappingEmptyValue
        return ← parseNode false false
    let t ← nextToken
    popState
    popMark
    pure ⟨.mappingEnd, t.start, t.stop⟩
  | .flowMappingValue =>
    let t ← peekToken
    if isValue t.token then
      discard nextToken
      let n ← peekToken
      if !(isFlowEntry n.token || isFlowMappingEnd n.token) then
        pushState (.flowMappingKey false)
        parseNode false false
      else
        goTo (.flowMappingKey false)
        pure (emptyScalar t.stop)
    else
      goTo (.flowMappingKey false)
      pure (emptyScalar t.start)
  | .flowMappingEmptyValue =>
    goTo (.flowMappingKey false)
    pure (emptyScalar (← peekToken).start)
  | .finished =>
    let t ← peekToken
    pure ⟨.streamEnd, t.start, t.stop⟩
where
  nextEventAfterStart : ParseM MarkedEvent := do
    let rec skipEnds : Nat → ParseM Unit
      | 0 => pure ()
      | n + 1 => do
        if let .documentEnd := (← peekToken).token then
          discard nextToken
          skipEnds n
    skipEnds ((← get).scanner.buffer.size + 1)
    let t ← peekToken
    if let .streamEnd := t.token then
      discard nextToken
      goTo .finished
      return ⟨.streamEnd, t.start, t.stop⟩
    processDirectives
    let d ← peekToken
    match d.token with
    | .documentStart =>
      discard nextToken
      pushState .documentEnd
      goTo .documentContent
      pure ⟨.documentStart true, t.start, d.stop⟩
    | _ =>
      fail none none ("expected '<document start>', but found " ++ quoteText d.token.id)
        (some d.start)

end Parser

end Weave.Yaml
