import AgentPackage.Yaml.Merge
import AgentPackage.Yaml.ScalarValue

/-!
# Reading YAML

The value of a YAML text. Nodes are built once each, however often they occur: a scalar at once, a
collection first without its content, all collections of one depth before those of the next. The
order decides which of several faults is met first, and what merging has done to a mapping by the
time that it is read. The value is put together when all nodes are built.
-/

namespace AgentPackage.Yaml

/-- The types of collections that have a standard tag. -/
inductive CollectionType where
  /-- A sequence. -/
  | seq
  /-- A mapping. -/
  | map
  /-- A set, written as a mapping whose values are not looked at. -/
  | set
  /-- An ordered mapping, written as a sequence of mappings of one entry. -/
  | omap
  /-- Pairs, written like an ordered mapping. -/
  | pairs
  deriving DecidableEq, Repr

namespace CollectionType

/-- The type of collections that a tag names. -/
def ofTag? (tag : String) : Option CollectionType :=
  if tag == standardTag "seq" then some .seq
  else if tag == standardTag "map" then some .map
  else if tag == standardTag "set" then some .set
  else if tag == standardTag "omap" then some .omap
  else if tag == standardTag "pairs" then some .pairs
  else none

end CollectionType

/-- What is built of a node. -/
inductive Built where
  /-- The value of a scalar; `isShared` is set for the one number that is no number to which all
  words for it lead. -/
  | scalar (v : Value) (isShared : Bool)
  /-- A collection, whose content is a sequence of items or of entries. -/
  | collection (type : CollectionType) (content : Content)
  deriving Inhabited

/-- The building of values from nodes. -/
structure Building where
  /-- The nodes. -/
  graph : Graph
  /-- What is built of the node with each number. -/
  built : Array (Option Built)
  /-- The collections whose content is still to be built, latest first. -/
  pending : List NodeId := []
  /-- How many entries the nodes had at first. There are never more merge keys than that, since
  merging only takes them away. -/
  entryLimit : Nat := graph.entryCount

namespace Graph

/-- The text of a node that is declared to be a scalar; a mapping stands for the value of its key
`=`. The budget is the number of calls that there is room for. -/
def scalarText (g : Graph) : Nat → NodeId → Except Error String
  | 0, _ => .error (.scalar (@ScalarFault.endlessText .function))
  | budget + 1, id =>
    let n := g.node id
    match n.content with
    | .scalar text => .ok text
    | .mapping entries =>
      match entries.find? (g.hasKeyTag "value") with
      | some (_, v) => scalarText g budget v
      | none => .error (.plain ("expected a scalar node, but found " ++ n.kindName) n.start)
    | .sequence _ => .error (.plain ("expected a scalar node, but found " ++ n.kindName) n.start)

/-- What a node is built as at first: a scalar, or a collection without its content. -/
def begun (g : Graph) (id : NodeId) : Except Error Built :=
  let n := g.node id
  match CollectionType.ofTag? n.tag with
  | some type => .ok (.collection type (.sequence []))
  | none =>
    match ScalarValue.ScalarType.ofTag? n.tag with
    | some type => do
      let text ← g.scalarText callRoom id
      -- the text of a time has to stand in the node itself
      if type == .timestamp && !n.isScalar then throw (.scalar .timeInMapping)
      return .scalar (← ScalarValue.ofText type text n.start)
        (type == .float && ScalarValue.isNotANumberWord text)
    | none => .error (.plain
        ("could not determine a constructor for the tag " ++ Text.quoted n.tag) n.start)

end Graph

namespace Building

/-- What is built of a node. -/
def built? (b : Building) (id : NodeId) : Option Built :=
  b.built.getD id none

/-- Whether a node is built as a collection. -/
def isCollection (b : Building) (id : NodeId) : Bool :=
  match b.built? id with
  | some (.collection _ _) => true
  | _ => false

/-- Builds a node, unless it is built. -/
def visit (b : Building) (id : NodeId) : Except Error Building :=
  match b.built? id with
  | some _ => .ok b
  | none => do
    let part ← b.graph.begun id
    let b := { b with built := b.built.setIfInBounds id (some part) }
    match part with
    | .scalar _ _ => return b
    | .collection _ _ => return { b with pending := id :: b.pending }

/-- Builds the keys and values of a mapping in order. A key may not be a collection. -/
def visitEntries (b : Building) (start : Mark) (entries : List (NodeId × NodeId)) :
    Except Error Building :=
  entries.foldlM (fun b (k, v) => do
    let b ← b.visit k
    if b.isCollection k then
      throw (.within mappingContext start "found unhashable key" (b.graph.node k).start)
    b.visit v) b

/-- Builds the entries of mappings of one entry each, in order, and gives those entries. -/
def visitRows (context : String) (start : Mark) (b : Building) :
    List NodeId → Except Error (List (NodeId × NodeId) × Building)
  | [] => .ok ([], b)
  | item :: items => do
    let n := b.graph.node item
    match n.entries? with
    | none => throw (.within context start
        ("expected a mapping of length 1, but found " ++ n.kindName) n.start)
    | some [(k, v)] =>
      let b ← b.visit k
      let b ← b.visit v
      let (rows, b) ← visitRows context start b items
      return ((k, v) :: rows, b)
    | some entries => throw (.within context start
        ("expected a single mapping item, but found " ++ toString entries.length ++ " items")
        n.start)

/-- Gives a collection its content. -/
def setContent (b : Building) (id : NodeId) (type : CollectionType) (content : Content) :
    Building :=
  { b with built := b.built.setIfInBounds id (some (.collection type content)) }

/-- Builds the rows of an ordered mapping or of pairs. -/
def fillRows (context : String) (type : CollectionType) (b : Building) (id : NodeId) :
    Except Error Building := do
  let n := b.graph.node id
  match n.items? with
  | some items =>
    let (rows, b) ← visitRows context n.start b items
    return b.setContent id type (.mapping rows)
  | none =>
    throw (.within context n.start ("expected a sequence, but found " ++ n.kindName) n.start)

/-- Builds the content of a collection. -/
def fill (b : Building) (id : NodeId) : Except Error Building := do
  let n := b.graph.node id
  match b.built? id with
  | some (.collection .seq _) =>
    match n.items? with
    | some items => return (← items.foldlM visit b).setContent id .seq (.sequence items)
    | none =>
      throw (.plain ("expected a sequence node, but found " ++ n.kindName) n.start)
  | some (.collection .omap _) => fillRows "while constructing an ordered map" .omap b id
  | some (.collection .pairs _) => fillRows "while constructing pairs" .pairs b id
  | some (.collection type _) =>
    match n.content with
    | .mapping _ =>
      let graph ← b.graph.merge (b.entryLimit + 1) callRoom id
      let entries := graph.entries id
      let b ← visitEntries { b with graph } n.start entries
      return b.setContent id type (.mapping entries)
    | _ => throw (.plain ("expected a mapping node, but found " ++ n.kindName) n.start)
  | _ => return b

/-- Builds the content of the collections that are pending, then that of the collections among it,
and so on. The budget bounds the depth. -/
def fillLevels : Nat → Building → Except Error Building
  | 0, b => .ok b
  | budget + 1, b =>
    if b.pending.isEmpty then .ok b
    else do
      fillLevels budget (← b.pending.reverse.foldlM fill { b with pending := [] })

/-- Builds a node and all that it holds. -/
def ofNode (g : Graph) (id : NodeId) : Except Error Building := do
  let b : Building := { graph := g, built := Array.replicate g.nodes.size none }
  fillLevels (g.nodes.size + 1) (← b.visit id)

/-- Whether two nodes are the same key of a mapping. What is no number is the same key only if it
is the same node, or denoted by a word for it. -/
def sameKey (b : Building) (i j : NodeId) : Bool :=
  i == j ||
    match b.built? i, b.built? j with
    | some (.scalar v shared), some (.scalar w shared') =>
      (shared && shared') || Value.sameKey v w
    | _, _ => false

/-- Stores an entry: under the key that is the same, whose spelling stays, or at the end. -/
def insertEntry (b : Building) (entry : NodeId × NodeId) :
    List (NodeId × NodeId) → List (NodeId × NodeId)
  | [] => [entry]
  | e :: es =>
    if b.sameKey e.1 entry.1 then (e.1, entry.2) :: es else e :: insertEntry b entry es

/-- The entries of a mapping, one for each key. -/
def distinct (b : Building) (entries : List (NodeId × NodeId)) : List (NodeId × NodeId) :=
  entries.foldl (fun es e => b.insertEntry e es) []

/-- The value of a node. A collection that stands inside itself has no content there. The budget
bounds the depth. -/
def value (b : Building) : Nat → List NodeId → NodeId → Value
  | 0, _, _ => .null
  | budget + 1, enclosing, id =>
    let item := value b budget (id :: enclosing)
    match b.built? id with
    | none => .null
    | some (.scalar v _) => v
    | some (.collection type content) =>
      let content := if enclosing.contains id then .sequence [] else content
      let items := match content with
        | .sequence items => items
        | _ => []
      let entries := match content with
        | .mapping entries => entries
        | _ => []
      match type with
      | .seq => .list (items.map item)
      | .map => .map ((b.distinct entries).map fun e => (item e.1, item e.2))
      | .set => .set ((b.distinct entries).map fun e => item e.1)
      | .omap | .pairs => .list (entries.map fun e => .tuple [item e.1, item e.2])

end Building

/-- Whether `c` may stand in a text. -/
def isAcceptable (c : Char) : Bool :=
  let n := c.toNat
  n == 0x09 || n == 0x0A || n == 0x0D || (0x20 ≤ n && n ≤ 0x7E) || n == 0x85 ||
    (0xA0 ≤ n && n ≤ 0xD7FF) || (0xE000 ≤ n && n ≤ 0xFFFD) || 0x10000 ≤ n

/-- The first character of a text that may not stand there, with its place. -/
def unacceptable? (position : Nat) : List Char → Option (Char × Nat)
  | [] => none
  | c :: cs => if isAcceptable c then unacceptable? (position + 1) cs else some (c, position)

/-- The value of a YAML text; a text without a document denotes the absent value. -/
def read (text : List Char) : Except Error Value := do
  if let some (c, position) := unacceptable? 0 text then
    throw (.unacceptable c.toNat position)
  let (tokens, tokenFailure) := Token.ofText text
  let (events, eventFailure) := Event.ofTokens tokens tokenFailure
  match ← Graph.ofEvents? events eventFailure with
  | none => return .null
  | some (g, root) =>
    let b ← Building.ofNode g root
    return b.value (g.nodes.size + 1) [] root

end AgentPackage.Yaml
