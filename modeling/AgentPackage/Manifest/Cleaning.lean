import AgentPackage.Manifest.Shape

/-!
# Cleaning manifests

A value that does not fit its field is dropped and reported, and the rest of the manifest is
kept: an element of a list is dropped alone, any other value with its whole field. Cleaning goes
on until nothing is left to drop.
-/

namespace AgentPackage

/-- A value of a manifest that did not fit its field. -/
structure FieldIssue where
  /-- The key of the field, as it is written in the manifest. -/
  field : String
  /-- The dotted way to the value. -/
  location : String
  /-- What is wrong with the value. -/
  message : String
  deriving DecidableEq, Repr

namespace Value

mutual

/-- The number of values that a value holds, itself included. -/
def size : Value → Nat
  | .list xs => sizeAll xs + 1
  | .tuple xs => sizeAll xs + 1
  | .set xs => sizeAll xs + 1
  | .map es => sizeEntries es + 1
  | _ => 1

/-- The number of values that several values hold. -/
def sizeAll : List Value → Nat
  | [] => 0
  | x :: xs => size x + sizeAll xs

/-- The number of values that the entries of a mapping hold, keys not counted. -/
def sizeEntries : List (Value × Value) → Nat
  | [] => 0
  | (_, v) :: es => size v + sizeEntries es

end

/-- The ways of `targets` that start with `p`, seen from there. -/
def inside (targets : List (List Part)) (p : Part) : List (List Part) :=
  targets.filterMap fun
    | [] => none
    | q :: rest => if q == p then some rest else none

mutual

/-- The value without the values that `targets` lead to. -/
def prune (targets : List (List Part)) : Value → Value
  | .list xs => .list (pruneItems targets 0 xs)
  | .map es => .map (pruneEntries targets es)
  | v => v

/-- The items of a list, the first of which has index `i`, without the values that `targets`
lead to. -/
def pruneItems (targets : List (List Part)) (i : Nat) : List Value → List Value
  | [] => []
  | x :: xs =>
    let inner := inside targets (.index i)
    if inner.contains [] then pruneItems targets (i + 1) xs
    else prune inner x :: pruneItems targets (i + 1) xs

/-- The entries of a mapping without the values that `targets` lead to. -/
def pruneEntries (targets : List (List Part)) : List (Value × Value) → List (Value × Value)
  | [] => []
  | (.str key, v) :: es =>
    let inner := inside targets (.key key)
    if inner.contains [] then pruneEntries targets es
    else (.str key, prune inner v) :: pruneEntries targets es
  | e :: es => e :: pruneEntries targets es

end

end Value

namespace Cleaning

/-- Follows a location from a value that lies at `path`, passing over the steps that name no
part of the value. The result is the way to the innermost list element on the location, or
`target` if there is none. -/
def targetFrom (current : Value) (path target : List Part) : List Part → List Part
  | [] => target
  | .index i :: rest =>
    match current with
    | .list xs =>
      match xs[i]? with
      | some x => targetFrom x (path ++ [.index i]) (path ++ [.index i]) rest
      | none => targetFrom current path target rest
    | _ => targetFrom current path target rest
  | .key k :: rest =>
    match current with
    | .map es =>
      match Fields.get? es k with
      | some v => targetFrom v (path ++ [.key k]) target rest
      | none => targetFrom current path target rest
    | _ => targetFrom current path target rest

/-- The key of a mapping that an error at the field `name` is about: the first in order of the
spellings of the field that the mapping holds. -/
def topKey? (r : RecordShape Shape) (fields : Fields) (name : String) : Option String :=
  let spellings := match r.fields.find? fun f => f.key == name || f.otherKey == name with
    | some f => if f.key ≤ f.otherKey then [f.key, f.otherKey] else [f.otherKey, f.key]
    | none => [name]
  spellings.find? fields.contains

/-- A value that is to be dropped, and the issue that reports it. -/
structure Drop where
  /-- The way to the value. -/
  target : List Part
  /-- The issue. -/
  issue : FieldIssue

/-- The value to drop for an error, if the error is about a key of the mapping. -/
def dropFor? (r : RecordShape Shape) (fields : Fields) (e : FieldError) : Option Drop :=
  match e.location with
  | [] => none
  | first :: rest => do
    let top ← topKey? r fields first.text
    let v ← fields.get? top
    let target := targetFrom v [.key top] [.key top] rest
    let shown := if target.length == 1 then e.location else target
    return ⟨target, ⟨first.text, Part.dotted shown, e.kind.message⟩⟩

/-- The values to drop for several errors, each once. -/
def drops (r : RecordShape Shape) (fields : Fields) (errors : List FieldError) : List Drop :=
  errors.foldl (fun ds e =>
    match dropFor? r fields e with
    | some d => if ds.any fun x => x.target == d.target then ds else ds ++ [d]
    | none => ds) []

/-- The values among `ds` inside which no other value is to be dropped. -/
def innermost (ds : List Drop) : List Drop :=
  ds.filter fun d => !ds.any fun x => x.target != d.target && d.target.isPrefixOf x.target

/-- Drops what does not fit until everything does. `issues` are those found before. It fails
only if no error is about a key that could be dropped. -/
def cleanFrom (r : RecordShape Shape) (issues : List FieldIssue) (fields : Fields) :
    Except Failure (Fields × List FieldIssue) :=
  match r.check fields with
  | [] => .ok (fields, issues)
  | errors =>
    let ds := innermost (drops r fields errors)
    let rest := Value.pruneEntries (ds.map Drop.target) fields
    if _h : Value.sizeEntries rest < Value.sizeEntries fields then
      cleanFrom r (issues ++ ds.map Drop.issue) rest
    else .error (.invalidRecord ⟨r.name, errors⟩)
termination_by Value.sizeEntries fields

/-- The entries of a mapping that fit a manifest, and the issues that report the others. -/
def clean (r : RecordShape Shape) (fields : Fields) :
    Except Failure (Fields × List FieldIssue) :=
  cleanFrom r [] fields

end Cleaning

end AgentPackage
