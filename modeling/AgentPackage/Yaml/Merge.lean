import AgentPackage.Yaml.Node

/-!
# Merging mappings

A merge key puts the entries of other mappings in front of those of its own mapping and is gone
then. The graph itself is changed, so whoever holds a mapping too finds it merged from then on. The
key `=` of a merged mapping becomes a string.
-/

namespace AgentPackage.Yaml

/-- What is being built from a mapping when an error is met. -/
def mappingContext : String := "while constructing a mapping"

namespace Graph

/-- Whether the key of an entry has a standard tag. -/
def hasKeyTag (g : Graph) (name : String) (entry : NodeId × NodeId) : Bool :=
  (g.node entry.1).tag == standardTag name

/-- Turns the keys `=` of a mapping into strings. -/
def nameDefaultKeys (g : Graph) (id : NodeId) : Graph :=
  (g.entries id).foldl (fun g e =>
    if g.hasKeyTag "value" e then g.setTag e.1 (standardTag "str") else g) g

/-- Takes the first merge key out of a mapping: what it merges, and the graph without it. -/
def takeMerge? (g : Graph) (id : NodeId) : Option (NodeId × Graph) :=
  let entries := g.entries id
  let isMerge := g.hasKeyTag "merge"
  (entries.find? isMerge).map fun e => (e.2, g.setContent id (.mapping (entries.eraseP isMerge)))

/-- Merges into a mapping what its merge keys name. The entries of the first of them come first; of
several mappings in one sequence, those of the last one do. A mapping that is merged is ready for
that before: `room` is the number of calls that there is room for. The budget bounds the number of
merge keys. -/
def merge : Nat → Nat → Graph → NodeId → Except Error Graph
  | 0, _, g, _ => .ok g
  | budget + 1, room, g, id =>
    let ready (g : Graph) (source : NodeId) : Except Error Graph :=
      if room == 0 then .error (.scalar (@ScalarFault.endlessText .function))
      else merge budget (room - 1) g source
    match g.takeMerge? id with
    | none => .ok (g.nameDefaultKeys id)
    | some (source, g) => do
      let start := (g.node id).start
      let (merged, g) ← match (g.node source).content with
        | .mapping _ => do
          let g ← ready g source
          pure (g.entries source, g)
        | .sequence items =>
          items.foldlM (fun (merged, g) item =>
            match (g.node item).content with
            | .mapping _ => do
              let g ← ready g item
              return (g.entries item ++ merged, g)
            | _ => throw (.within mappingContext start
                ("expected a mapping for merging, but found " ++ (g.node item).kindName)
                (g.node item).start)) ([], g)
        | .scalar _ => throw (.within mappingContext start
            ("expected a mapping or list of mappings for merging, but found " ++
              (g.node source).kindName) (g.node source).start)
      let g ← merge budget room g id
      return g.setContent id (.mapping (merged ++ g.entries id))

end Graph

end AgentPackage.Yaml
