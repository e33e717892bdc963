import AgentPackage.Yaml.Implicit

/-!
# From events to nodes

The nodes of a document: its scalars and collections with their tags. An alias leads to the node
that its anchor names, so a node can stand in several places, a collection even inside itself. The
nodes are therefore numbered, and a collection holds the numbers of its items. A text holds at most
one document.
-/

namespace AgentPackage.Yaml

/-- The number of a node in its graph. -/
abbrev NodeId := Nat

/-- What a node holds. -/
inductive Content where
  /-- A text. -/
  | scalar (text : String)
  /-- Items. -/
  | sequence (items : List NodeId)
  /-- Entries, each a key with a value. -/
  | mapping (entries : List (NodeId × NodeId))
  deriving DecidableEq, Repr, Inhabited

/-- A node of a document. -/
structure Node where
  /-- The tag. -/
  tag : String
  /-- Where the node starts. -/
  start : Mark
  /-- What the node holds. -/
  content : Content
  deriving DecidableEq, Repr, Inhabited

namespace Node

/-- The name of the kind of a node in messages. -/
def kindName (n : Node) : String :=
  match n.content with
  | .scalar _ => "scalar"
  | .sequence _ => "sequence"
  | .mapping _ => "mapping"

/-- Whether a node is a scalar. -/
def isScalar (n : Node) : Bool :=
  match n.content with
  | .scalar _ => true
  | _ => false

/-- The items of a sequence. -/
def items? (n : Node) : Option (List NodeId) :=
  match n.content with
  | .sequence items => some items
  | _ => none

/-- The entries of a mapping. -/
def entries? (n : Node) : Option (List (NodeId × NodeId)) :=
  match n.content with
  | .mapping entries => some entries
  | _ => none

end Node

/-- Nodes that hold each other, by their numbers. -/
structure Graph where
  /-- The nodes. -/
  nodes : Array Node := #[]
  deriving Repr

namespace Graph

/-- The node with a number. -/
def node (g : Graph) (id : NodeId) : Node :=
  g.nodes.getD id default

/-- The number that the next node gets. -/
def nextId (g : Graph) : NodeId :=
  g.nodes.size

/-- The graph with one more node. -/
def push (g : Graph) (n : Node) : Graph :=
  { nodes := g.nodes.push n }

/-- The graph with another content of a node. -/
def setContent (g : Graph) (id : NodeId) (content : Content) : Graph :=
  { nodes := g.nodes.modify id fun n => { n with content } }

/-- The graph with another tag of a node. -/
def setTag (g : Graph) (id : NodeId) (tag : String) : Graph :=
  { nodes := g.nodes.modify id fun n => { n with tag } }

/-- The entries of a node; one that is no mapping has none. -/
def entries (g : Graph) (id : NodeId) : List (NodeId × NodeId) :=
  (g.node id).entries?.getD []

/-- The number of entries of all nodes. -/
def entryCount (g : Graph) : Nat :=
  g.nodes.foldl (fun n node => n + (node.entries?.getD []).length) 0

end Graph

/-- The state of the building of nodes from events. -/
structure NodeState where
  /-- The events that are left. -/
  events : List Event
  /-- The error behind them, if any. -/
  failure : Option Error
  /-- The nodes that anchors name. -/
  anchors : List (String × NodeId) := []
  /-- The nodes that there are. -/
  graph : Graph := {}

namespace NodeState

/-- The next event; behind the last one stands the error. -/
def peek (s : NodeState) : Except Error Event :=
  match s.events with
  | e :: _ => .ok e
  | [] => .error (s.failure.getD (.plain "expected more events" ⟨0, 0, 0⟩))

/-- The state behind the next event. -/
def drop (s : NodeState) : NodeState :=
  { s with events := s.events.drop 1 }

/-- Checks that an anchor names nothing yet. -/
def checkFresh (s : NodeState) (anchor : Option String) (mark : Mark) : Except Error Unit :=
  match anchor with
  | none => .ok ()
  | some a =>
    match s.anchors.lookup a with
    | none => .ok ()
    | some id => .error (.within
        ("found duplicate anchor " ++ Text.quoted a ++ "; first occurrence")
        (s.graph.node id).start "second occurrence" mark)

/-- Adds a node, which an anchor, if there is one, names from now on. -/
def add (s : NodeState) (anchor : Option String) (n : Node) : NodeId × NodeState :=
  let id := s.graph.nextId
  let anchors := match anchor with
    | none => s.anchors
    | some a => (a, id) :: s.anchors
  (id, { s with graph := s.graph.push n, anchors })

/-- Gives a node another content. -/
def fill (s : NodeState) (id : NodeId) (content : Content) : NodeState :=
  { s with graph := s.graph.setContent id content }

/-- The tag of a collection: its own, or the standard one of its kind. -/
def collectionTag (tag : Option String) (standard : String) : String :=
  match tag with
  | none => standardTag standard
  | some t => if t == "!" then standardTag standard else t

mutual

/-- Builds the next node. A collection is there before its content, which may lead back to it. The
budget bounds the number of events read, and there is room for so many calls one inside the other:
a collection takes two before its content is looked at. -/
def node : Nat → Nat → NodeState → Except Error (NodeId × NodeState)
  | 0, _, s => .error (s.failure.getD (.plain "expected a node" ⟨0, 0, 0⟩))
  | budget + 1, room, s => do
    let e ← s.peek
    match e.kind with
    | .reference a =>
      match s.anchors.lookup a with
      | some id => return (id, s.drop)
      | none => throw (.plain ("found undefined alias " ++ Text.quoted a) e.start)
    | .scalar anchor tag implicit text =>
      s.checkFresh anchor e.start
      let inferred := if implicit then Implicit.tagOf text else standardTag "str"
      let tag := match tag with
        | none => inferred
        | some t => if t == "!" then inferred else t
      return s.drop.add anchor ⟨tag, e.start, .scalar text⟩
    | .sequenceStart anchor tag =>
      s.checkFresh anchor e.start
      if room < 2 then throw (.scalar (@ScalarFault.endlessText .function))
      let (id, s) := s.drop.add anchor ⟨collectionTag tag "seq", e.start, .sequence []⟩
      let (items, s) ← nodes budget (room - 2) s
      return (id, s.fill id (.sequence items))
    | .mappingStart anchor tag =>
      s.checkFresh anchor e.start
      if room < 2 then throw (.scalar (@ScalarFault.endlessText .function))
      let (id, s) := s.drop.add anchor ⟨collectionTag tag "map", e.start, .mapping []⟩
      let (entries, s) ← entries budget (room - 2) s
      return (id, s.fill id (.mapping entries))
    | _ => throw (.plain "expected a node" e.start)

/-- Builds the items of a sequence up to its end. -/
def nodes : Nat → Nat → NodeState → Except Error (List NodeId × NodeState)
  | 0, _, s => .error (s.failure.getD (.plain "expected a node" ⟨0, 0, 0⟩))
  | budget + 1, room, s => do
    let e ← s.peek
    match e.kind with
    | .sequenceEnd => return ([], s.drop)
    | _ =>
      let (id, s) ← node budget room s
      let (ids, s) ← nodes budget room s
      return (id :: ids, s)

/-- Builds the entries of a mapping up to its end. -/
def entries : Nat → Nat → NodeState → Except Error (List (NodeId × NodeId) × NodeState)
  | 0, _, s => .error (s.failure.getD (.plain "expected a node" ⟨0, 0, 0⟩))
  | budget + 1, room, s => do
    let e ← s.peek
    match e.kind with
    | .mappingEnd => return ([], s.drop)
    | _ =>
      let (k, s) ← node budget room s
      let (v, s) ← node budget room s
      let (es, s) ← entries budget room s
      return ((k, v) :: es, s)

end

end NodeState

/-- The nodes of the one document of a sequence of events that `failure` ends, and the number of
its root, if there is a document. -/
def Graph.ofEvents? (events : List Event) (failure : Option Error) :
    Except Error (Option (Graph × NodeId)) := do
  let s : NodeState := { events, failure }
  let _ ← s.peek
  let s := s.drop
  let e ← s.peek
  match e.kind with
  | .streamEnd => return none
  | _ =>
    let (root, s) ← NodeState.node (2 * events.length + 2) callRoom s.drop
    let _ ← s.peek
    let s := s.drop
    let e ← s.peek
    match e.kind with
    | .streamEnd => return some (s.graph, root)
    | _ => throw (.within "expected a single document in the stream"
        (s.graph.node root).start "but found another document" e.start)

end AgentPackage.Yaml
