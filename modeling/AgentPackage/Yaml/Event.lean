import AgentPackage.Yaml.TokenStream

/-!
# From tokens to events

The structure of a YAML text as a sequence of events: the starts and ends of the text, of its
documents and of their collections, with the scalars and aliases between them. Tags are expanded
by the handles that the directives of the document define. The state is what is expected next
and what is expected behind each collection that is still open.

As with tokens, the events are given out up to the first error.
-/

namespace AgentPackage.Yaml

/-- The kind and the content of an event. -/
inductive EventKind where
  /-- The start of the text. -/
  | streamStart
  /-- The end of the text. -/
  | streamEnd
  /-- The start of a document. -/
  | documentStart
  /-- The end of a document. -/
  | documentEnd
  /-- An alias with its name. -/
  | reference (name : String)
  /-- A scalar with its anchor, its tag and its text. It is `implicit` when its type follows from
  its text. -/
  | scalar (anchor tag : Option String) (implicit : Bool) (text : String)
  /-- The start of a sequence with its anchor and its tag. -/
  | sequenceStart (anchor tag : Option String)
  /-- The end of a sequence. -/
  | sequenceEnd
  /-- The start of a mapping with its anchor and its tag. -/
  | mappingStart (anchor tag : Option String)
  /-- The end of a mapping. -/
  | mappingEnd
  deriving DecidableEq, Repr

/-- An event with the place where it starts. -/
structure Event where
  /-- The kind and the content. -/
  kind : EventKind
  /-- Where the event starts. -/
  start : Mark
  deriving Repr

/-- What is expected next. -/
inductive Expected where
  /-- The start of the text. -/
  | streamStart
  /-- The first document, whose start marker may be missing. -/
  | implicitDocumentStart
  /-- Another document, or the end of the text. -/
  | documentStart
  /-- The end of a document. -/
  | documentEnd
  /-- The content of a document after its start marker. -/
  | documentContent
  /-- A node in block context. -/
  | blockNode
  /-- The first entry of a block sequence. -/
  | blockSequenceFirst
  /-- An entry of a block sequence, or its end. -/
  | blockSequenceEntry
  /-- An entry of a block sequence that is not indented, or its end. -/
  | indentlessEntry
  /-- The first key of a block mapping. -/
  | blockMappingFirst
  /-- A key of a block mapping, or its end. -/
  | blockMappingKey
  /-- A value of a block mapping. -/
  | blockMappingValue
  /-- The first entry of a flow sequence. -/
  | flowSequenceFirst
  /-- An entry of a flow sequence, or its end. -/
  | flowSequenceEntry
  /-- The key of a mapping of one entry inside a flow sequence. -/
  | flowPairKey
  /-- The value of that mapping. -/
  | flowPairValue
  /-- The end of that mapping. -/
  | flowPairEnd
  /-- The first key of a flow mapping. -/
  | flowMappingFirst
  /-- A key of a flow mapping, or its end. -/
  | flowMappingKey
  /-- A value of a flow mapping. -/
  | flowMappingValue
  /-- The missing value of a flow mapping. -/
  | flowMappingNoValue
  /-- Nothing: the end of the text has been given out. -/
  | nothing
  deriving DecidableEq, Repr

/-- The state of the reading of events from tokens. -/
structure EventState where
  /-- The tokens that are left. -/
  tokens : List Token
  /-- The error behind them, if any. -/
  failure : Option Error
  /-- What is expected next. -/
  expected : Expected
  /-- What is expected behind the nodes that are still open, innermost first. -/
  later : List Expected
  /-- Where the open collections start, innermost first. -/
  starts : List Mark
  /-- The tag handles of the document with the texts they stand for. -/
  handles : List (String × String)

/-- The tag handles that every document has. -/
def standardHandles : List (String × String) :=
  [("!", "!"), ("!!", "tag:yaml.org,2002:")]

namespace EventState

/-- The state in front of a sequence of tokens. -/
def initial (tokens : List Token) (failure : Option Error) : EventState :=
  ⟨tokens, failure, .streamStart, [], [], []⟩

/-- The next token; behind the last one stands the error. -/
def peek (s : EventState) : Except Error Token :=
  match s.tokens with
  | t :: _ => .ok t
  | [] => .error (s.failure.getD (.plain "expected more tokens" ⟨0, 0, 0⟩))

/-- The state behind the next token. -/
def drop (s : EventState) : EventState :=
  { s with tokens := s.tokens.drop 1 }

/-- What is expected behind the node that was read last. -/
def pop (s : EventState) : EventState :=
  { s with expected := s.later.headD .nothing, later := s.later.drop 1 }

/-- Expects `e` next. -/
def expect (s : EventState) (e : Expected) : EventState :=
  { s with expected := e }

/-- Expects `e` behind the node that is read next. -/
def push (s : EventState) (e : Expected) : EventState :=
  { s with later := e :: s.later }

/-- The place where the innermost open collection starts. -/
def innermost (s : EventState) : Mark :=
  s.starts.headD ⟨0, 0, 0⟩

/-- The place of the first token of an open collection is remembered. -/
def enter (s : EventState) (m : Mark) : EventState :=
  { s with starts := m :: s.starts }

/-- The innermost open collection is closed. -/
def leave (s : EventState) : EventState :=
  { s.pop with starts := s.starts.drop 1 }

end EventState

/-- An empty scalar at `m`. -/
def Event.empty (m : Mark) : Event :=
  ⟨.scalar none none true "", m⟩

/-- The anchor and the tag of a node, as they stand in front of it. -/
structure Properties where
  /-- The name of the anchor. -/
  anchor : Option String
  /-- The handle and the suffix of the tag, and where it starts. -/
  tag : Option (Option String × String × Mark)
  /-- Where the anchor or the tag starts, whichever comes first. -/
  start : Option Mark

namespace EventState

/-- Reads an anchor, if there is one. -/
def anchor? (s : EventState) : Except Error (Option (String × Mark) × EventState) := do
  let t ← s.peek
  match t.kind with
  | .anchor name => return (some (name, t.start), s.drop)
  | _ => return (none, s)

/-- Reads a tag, if there is one. -/
def tag? (s : EventState) :
    Except Error (Option (Option String × String × Mark) × EventState) := do
  let t ← s.peek
  match t.kind with
  | .tag handle suffix => return (some (handle, suffix, t.start), s.drop)
  | _ => return (none, s)

/-- Reads the anchor and the tag in front of a node, in either order. -/
def properties (s : EventState) : Except Error (Properties × EventState) := do
  let (a, s) ← s.anchor?
  match a with
  | some (name, start) =>
    let (tag, s) ← s.tag?
    return (⟨some name, tag, some start⟩, s)
  | none =>
    let (tag, s) ← s.tag?
    match tag with
    | some (_, _, start) =>
      let (a, s) ← s.anchor?
      return (⟨a.map Prod.fst, tag, some start⟩, s)
    | none => return (⟨none, none, none⟩, s)

/-- The full text of a tag. -/
def expandTag (s : EventState) (p : Properties) : Except Error (Option String) :=
  match p.tag with
  | none => .ok none
  | some (none, suffix, _) => .ok (some suffix)
  | some (some handle, suffix, mark) =>
    match s.handles.lookup handle with
    | some uri => .ok (some (uri ++ suffix))
    | none => .error (.complaint ⟨some "while parsing a node", p.start,
        "found undefined tag handle " ++ Text.quoted handle, mark⟩)

/-- Reads a node: an alias, or a scalar or the start of a collection behind its properties. In
block context block collections may stand there, and if `indentless` is set a block sequence
that is not indented. -/
def node (block indentless : Bool) (s : EventState) : Except Error (Event × EventState) := do
  let first ← s.peek
  -- an alias has the properties of the node that it stands for, and none of its own
  if let .reference name := first.kind then
    return (⟨.reference name, first.start⟩, s.drop.pop)
  let (p, s) ← s.properties
  let tag ← s.expandTag p
  let t ← s.peek
  let start := p.start.getD t.start
  -- the tag `!` asks for the type that follows from the kind of the node
  let inferred := tag == none || tag == some "!"
  match t.kind with
  | .blockEntry =>
    if indentless then
      return (⟨.sequenceStart p.anchor tag, start⟩, s.expect .indentlessEntry)
    else missing p tag inferred start t s
  | .scalar text plain =>
    let implicit := (plain && tag == none) || tag == some "!"
    return (⟨.scalar p.anchor tag implicit text, start⟩, s.drop.pop)
  | .flowSequenceStart =>
    return (⟨.sequenceStart p.anchor tag, start⟩, s.expect .flowSequenceFirst)
  | .flowMappingStart =>
    return (⟨.mappingStart p.anchor tag, start⟩, s.expect .flowMappingFirst)
  | .blockSequenceStart =>
    if block then
      return (⟨.sequenceStart p.anchor tag, start⟩, s.expect .blockSequenceFirst)
    else missing p tag inferred start t s
  | .blockMappingStart =>
    if block then
      return (⟨.mappingStart p.anchor tag, start⟩, s.expect .blockMappingFirst)
    else missing p tag inferred start t s
  | _ => missing p tag inferred start t s
where
  /-- Where no content stands, the node is empty if it has an anchor or a tag. -/
  missing (p : Properties) (tag : Option String) (inferred : Bool) (start : Mark) (t : Token)
      (s : EventState) : Except Error (Event × EventState) :=
    if p.anchor.isSome || tag.isSome then
      .ok (⟨.scalar p.anchor tag inferred "", start⟩, s.pop)
    else
      .error (.within
        (if block then "while parsing a block node" else "while parsing a flow node") start
        ("expected the node content, but found " ++ t.shown) t.start)

/-- Reads a node in block context. -/
def blockNode (s : EventState) : Except Error (Event × EventState) :=
  node true false s

/-- Reads a key or a value of a block mapping. -/
def blockMappingNode (s : EventState) : Except Error (Event × EventState) :=
  node true true s

/-- Reads a node in flow context. -/
def flowNode (s : EventState) : Except Error (Event × EventState) :=
  node false false s

/-- Reads the directives in front of a document and sets its tag handles. `version` says whether
a version has been read. -/
def directives : Nat → Bool → EventState → Except Error EventState
  | 0, _, s => .ok s
  | budget + 1, version, s => do
    let t ← s.peek
    match t.kind with
    | .directive (.version major _) =>
      if version then throw (.plain "found duplicate YAML directive" t.start)
      if major != 1 then
        throw (.plain "found incompatible YAML document (version 1.* is required)" t.start)
      directives budget true s.drop
    | .directive (.tag handle uri) =>
      if (s.handles.lookup handle).isSome then
        throw (.plain ("duplicate tag handle " ++ Text.quoted handle) t.start)
      directives budget version { s.drop with handles := s.handles ++ [(handle, uri)] }
    | .directive .other => directives budget version s.drop
    | _ => return { s with handles := s.handles ++ standardHandles }

/-- Moves behind end markers of documents. -/
def skipDocumentEnds : Nat → EventState → Except Error EventState
  | 0, s => .ok s
  | budget + 1, s => do
    let t ← s.peek
    match t.kind with
    | .documentEnd => skipDocumentEnds budget s.drop
    | _ => return s

/-- Reads the start of a document with its directives and its marker, or the end of the text. -/
def documentStart (s : EventState) : Except Error (Event × EventState) := do
  let s ← skipDocumentEnds (s.tokens.length + 1) s
  let t ← s.peek
  match t.kind with
  | .streamEnd => return (⟨.streamEnd, t.start⟩, s.drop.expect .nothing)
  | _ =>
    -- the handles of one document are unknown in the next
    let s ← directives (s.tokens.length + 1) false { s with handles := [] }
    let m ← s.peek
    match m.kind with
    | .documentStart =>
      return (⟨.documentStart, t.start⟩, (s.drop.push .documentEnd).expect .documentContent)
    | _ => throw (.plain ("expected '<document start>', but found " ++ m.shown) m.start)

/-- Reads the first document's start, which may be without a marker. -/
def implicitDocumentStart (s : EventState) : Except Error (Event × EventState) := do
  let t ← s.peek
  match t.kind with
  | .directive _ | .documentStart | .streamEnd => s.documentStart
  | _ =>
    return (⟨.documentStart, t.start⟩,
      ({ s with handles := standardHandles }.push .documentEnd).expect .blockNode)

/-- Reads the content of a document, which may be empty. -/
def documentContent (s : EventState) : Except Error (Event × EventState) := do
  let t ← s.peek
  match t.kind with
  | .directive _ | .documentStart | .documentEnd | .streamEnd =>
    return (.empty t.start, s.pop)
  | _ => s.blockNode

/-- An error inside the innermost open collection. -/
def collectionError (s : EventState) (context expected : String) (t : Token) : Error :=
  .within context s.innermost (expected ++ t.shown) t.start

/-- Reads an entry of a block sequence, or its end. -/
def blockSequenceEntry (s : EventState) : Except Error (Event × EventState) := do
  let t ← s.peek
  match t.kind with
  | .blockEntry =>
    let s := s.drop
    let n ← s.peek
    match n.kind with
    | .blockEntry | .blockEnd => return (.empty t.stop, s.expect .blockSequenceEntry)
    | _ => (s.push .blockSequenceEntry).blockNode
  | .blockEnd => return (⟨.sequenceEnd, t.start⟩, s.drop.leave)
  | _ => throw (s.collectionError "while parsing a block collection"
      "expected <block end>, but found " t)

/-- Reads an entry of a block sequence that is not indented, or its end. -/
def indentlessEntry (s : EventState) : Except Error (Event × EventState) := do
  let t ← s.peek
  match t.kind with
  | .blockEntry =>
    let s := s.drop
    let n ← s.peek
    match n.kind with
    -- the mapping around the sequence goes on: its end needs no token
    | .blockEntry | .key | .value | .blockEnd =>
      return (.empty t.stop, s.expect .indentlessEntry)
    | _ => (s.push .indentlessEntry).blockNode
  | _ => return (⟨.sequenceEnd, t.start⟩, s.pop)

/-- Reads a key of a block mapping, or its end. -/
def blockMappingKey (s : EventState) : Except Error (Event × EventState) := do
  let t ← s.peek
  match t.kind with
  | .key =>
    let s := s.drop
    let n ← s.peek
    match n.kind with
    | .key | .value | .blockEnd => return (.empty t.stop, s.expect .blockMappingValue)
    | _ => (s.push .blockMappingValue).blockMappingNode
  | .blockEnd => return (⟨.mappingEnd, t.start⟩, s.drop.leave)
  | _ => throw (s.collectionError "while parsing a block mapping"
      "expected <block end>, but found " t)

/-- Reads a value of a block mapping, which may be missing. -/
def blockMappingValue (s : EventState) : Except Error (Event × EventState) := do
  let t ← s.peek
  match t.kind with
  | .value =>
    let s := s.drop
    let n ← s.peek
    match n.kind with
    | .key | .value | .blockEnd => return (.empty t.stop, s.expect .blockMappingKey)
    | _ => (s.push .blockMappingKey).blockMappingNode
  | _ => return (.empty t.start, s.expect .blockMappingKey)

/-- Moves behind the comma in front of an entry of a flow collection; the first entry has
none. -/
def flowComma (first : Bool) (context expected : String) (s : EventState) :
    Except Error EventState := do
  if first then return s
  let t ← s.peek
  match t.kind with
  | .flowEntry => return s.drop
  | _ => throw (s.collectionError context expected t)

/-- Reads an entry of a flow sequence, or its end. -/
def flowSequenceEntry (first : Bool) (s : EventState) : Except Error (Event × EventState) := do
  let t ← s.peek
  if t.kind == .flowSequenceEnd then return (⟨.sequenceEnd, t.start⟩, s.drop.leave)
  let s ← s.flowComma first "while parsing a flow sequence" "expected ',' or ']', but got "
  let t ← s.peek
  match t.kind with
  | .key => return (⟨.mappingStart none none, t.start⟩, s.expect .flowPairKey)
  | .flowSequenceEnd => return (⟨.sequenceEnd, t.start⟩, s.drop.leave)
  | _ => (s.push .flowSequenceEntry).flowNode

/-- Reads the key of a mapping of one entry inside a flow sequence. -/
def flowPairKey (s : EventState) : Except Error (Event × EventState) := do
  let t ← s.peek
  let s := s.drop
  let n ← s.peek
  match n.kind with
  | .value | .flowEntry | .flowSequenceEnd => return (.empty t.stop, s.expect .flowPairValue)
  | _ => (s.push .flowPairValue).flowNode

/-- Reads the value of a mapping of one entry inside a flow sequence. -/
def flowPairValue (s : EventState) : Except Error (Event × EventState) := do
  let t ← s.peek
  match t.kind with
  | .value =>
    let s := s.drop
    let n ← s.peek
    match n.kind with
    | .flowEntry | .flowSequenceEnd => return (.empty t.stop, s.expect .flowPairEnd)
    | _ => (s.push .flowPairEnd).flowNode
  | _ => return (.empty t.start, s.expect .flowPairEnd)

/-- Ends a mapping of one entry inside a flow sequence. -/
def flowPairEnd (s : EventState) : Except Error (Event × EventState) := do
  let t ← s.peek
  return (⟨.mappingEnd, t.start⟩, s.expect .flowSequenceEntry)

/-- Reads a key of a flow mapping, or its end. -/
def flowMappingKey (first : Bool) (s : EventState) : Except Error (Event × EventState) := do
  let t ← s.peek
  if t.kind == .flowMappingEnd then return (⟨.mappingEnd, t.start⟩, s.drop.leave)
  let s ← s.flowComma first "while parsing a flow mapping" "expected ',' or '\x7d', but got "
  let t ← s.peek
  match t.kind with
  | .key =>
    let s := s.drop
    let n ← s.peek
    match n.kind with
    | .value | .flowEntry | .flowMappingEnd =>
      return (.empty t.stop, s.expect .flowMappingValue)
    | _ => (s.push .flowMappingValue).flowNode
  | .flowMappingEnd => return (⟨.mappingEnd, t.start⟩, s.drop.leave)
  | _ => (s.push .flowMappingNoValue).flowNode

/-- Reads a value of a flow mapping, which may be missing. -/
def flowMappingValue (s : EventState) : Except Error (Event × EventState) := do
  let t ← s.peek
  match t.kind with
  | .value =>
    let s := s.drop
    let n ← s.peek
    match n.kind with
    | .flowEntry | .flowMappingEnd => return (.empty t.stop, s.expect .flowMappingKey)
    | _ => (s.push .flowMappingKey).flowNode
  | _ => return (.empty t.start, s.expect .flowMappingKey)

/-- Moves behind the token that starts a collection and remembers where it stands. -/
def enterNext (s : EventState) : Except Error EventState := do
  let t ← s.peek
  return s.drop.enter t.start

/-- Reads the next event. -/
def step (s : EventState) : Except Error (Event × EventState) := do
  match s.expected with
  | .streamStart =>
    let t ← s.peek
    return (⟨.streamStart, t.start⟩, s.drop.expect .implicitDocumentStart)
  | .implicitDocumentStart => s.implicitDocumentStart
  | .documentStart => s.documentStart
  | .documentEnd =>
    let t ← s.peek
    let s := match t.kind with | .documentEnd => s.drop | _ => s
    return (⟨.documentEnd, t.start⟩, s.expect .documentStart)
  | .documentContent => s.documentContent
  | .blockNode => s.blockNode
  | .blockSequenceFirst => (← s.enterNext).blockSequenceEntry
  | .blockSequenceEntry => s.blockSequenceEntry
  | .indentlessEntry => s.indentlessEntry
  | .blockMappingFirst => (← s.enterNext).blockMappingKey
  | .blockMappingKey => s.blockMappingKey
  | .blockMappingValue => s.blockMappingValue
  | .flowSequenceFirst => flowSequenceEntry true (← s.enterNext)
  | .flowSequenceEntry => s.flowSequenceEntry false
  | .flowPairKey => s.flowPairKey
  | .flowPairValue => s.flowPairValue
  | .flowPairEnd => s.flowPairEnd
  | .flowMappingFirst => flowMappingKey true (← s.enterNext)
  | .flowMappingKey => s.flowMappingKey false
  | .flowMappingValue => s.flowMappingValue
  | .flowMappingNoValue =>
    let t ← s.peek
    return (.empty t.start, s.expect .flowMappingKey)
  | .nothing => throw (s.failure.getD (.plain "expected no more events" ⟨0, 0, 0⟩))

/-- Gives out events until the end of the text or an error. `acc` holds those given out, latest
first. -/
def run : Nat → List Event → EventState → List Event × Option Error
  | 0, acc, _ => (acc.reverse, none)
  | budget + 1, acc, s =>
    if s.expected == .nothing then (acc.reverse, none)
    else match s.step with
      | .error e => (acc.reverse, some e)
      | .ok (e, s) => run budget (e :: acc) s

end EventState

/-- The events of a sequence of tokens that `failure` ends, up to the first error. -/
def Event.ofTokens (tokens : List Token) (failure : Option Error) :
    List Event × Option Error :=
  EventState.run (8 * tokens.length + 32) [] (EventState.initial tokens failure)

end AgentPackage.Yaml
