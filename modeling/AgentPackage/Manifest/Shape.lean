import AgentPackage.Failure
import AgentPackage.Text.Utf8

/-!
# Shapes of manifests

What the fields of a manifest may hold, and the errors of a mapping that was written as a
manifest. Every field may be missing or absent, and every field has two spellings, of which the
first wins; keys that are no fields are kept as they stand, but have to be strings. A mapping in a
field has texts for keys, which may be written as binary data.
-/

namespace AgentPackage

/-- What a field of a record inside a manifest may hold. -/
inductive LeafShape where
  /-- A string. -/
  | text
  /-- A list of strings. -/
  | texts
  deriving DecidableEq, Repr

/-- A field with the two spellings of its key. -/
structure FieldShape (α : Type) where
  /-- The spelling that wins. -/
  key : String
  /-- The other spelling. -/
  otherKey : String
  /-- What the field may hold. -/
  shape : α
  deriving DecidableEq, Repr

/-- A record with its name and its fields. -/
structure RecordShape (α : Type) where
  /-- The name of the record in messages. -/
  name : String
  /-- The fields, in the order in which they are checked. -/
  fields : List (FieldShape α)
  deriving DecidableEq, Repr

/-- What a field of a manifest may hold. -/
inductive Shape where
  /-- A string or a list of strings. -/
  | leaf (l : LeafShape)
  /-- A mapping whose keys are texts. -/
  | mapping
  /-- A record. -/
  | record (r : RecordShape LeafShape)
  /-- A list of strings and records. -/
  | mixed (r : RecordShape LeafShape)
  deriving DecidableEq, Repr

/-- The errors, seen from one step further outside. -/
def FieldError.under (p : Part) (errors : List FieldError) : List FieldError :=
  errors.map fun e => { e with location := p :: e.location }

/-- An error at the value itself. -/
def FieldError.here (kind : FieldErrorKind) (input : Value) : List FieldError :=
  [⟨kind, [], input⟩]

namespace Shape

/-- The elements of a value that is taken for a list. -/
def elements? : Value → Option (List Value)
  | .list xs => some xs
  | .tuple xs => some xs
  | .set xs => some xs
  | _ => none

/-- The errors of the elements of a list, each found by `errors`. -/
def elementErrors (errors : Value → List FieldError) (xs : List Value) : List FieldError :=
  (xs.zipIdx).flatMap fun (x, i) => FieldError.under (.index i) (errors x)

/-- The errors of a value that has to be a string. -/
def textErrors : Value → List FieldError
  | .str _ => []
  | v => FieldError.here .stringType v

end Shape

/-- The errors of a value in a field of a record inside a manifest. -/
def LeafShape.errors (s : LeafShape) (v : Value) : List FieldError :=
  match s, v with
  | _, .null => []
  | .text, v => Shape.textErrors v
  | .texts, v =>
    match Shape.elements? v with
    | some xs => Shape.elementErrors Shape.textErrors xs
    | none => FieldError.here .listType v

/-- The key under which a mapping holds a field, and its value. -/
def FieldShape.find? {α : Type} (f : FieldShape α) (fields : Fields) : Option (String × Value) :=
  match fields.get? f.key with
  | some v => some (f.key, v)
  | none => (fields.get? f.otherKey).map fun v => (f.otherKey, v)

/-- The step to a key: truth values count as numbers. -/
def keyPart : Value → Part
  | .str s => .key s
  | .bool b => .key (if b then "1" else "0")
  | v => .key v.shown

/-- The text of a key in a mapping whose keys are texts, or what is wrong with the key. Binary data
counts as the text that it encodes. -/
def keyText : Value → Except FieldErrorKind String
  | .str s => .ok s
  | .bytes bs =>
    match Text.Utf8.decode bs with
    | .ok text => .ok (String.ofList text)
    | .error _ => .error .stringUnicode
  | _ => .error .stringType

/-- The errors of the keys of a mapping whose keys are texts. -/
def textKeyErrors (fields : Fields) : List FieldError :=
  fields.flatMap fun e =>
    match keyText e.1 with
    | .ok _ => []
    | .error kind =>
      FieldError.under (keyPart e.1) (FieldError.under (.key "[key]") (FieldError.here kind e.1))

/-- The errors of the keys of a mapping that are no strings. -/
def keyErrors (fields : Fields) : List FieldError :=
  (fields.filter fun e => !e.1.isStr).flatMap fun e =>
    FieldError.under (keyPart e.1) (FieldError.here .invalidKey e.1)

/-- The errors of a mapping that was written as a record, the errors of its fields found by
`errors`. -/
def RecordShape.fieldErrors {α : Type} (errors : α → Value → List FieldError)
    (r : RecordShape α) (fields : Fields) : List FieldError :=
  (r.fields.flatMap fun f =>
    match f.find? fields with
    | some (key, v) => FieldError.under (.key key) (errors f.shape v)
    | none => []) ++ keyErrors fields

/-- The errors of a value that has to be a record. -/
def RecordShape.errors {α : Type} (errors : α → Value → List FieldError) (r : RecordShape α)
    (v : Value) : List FieldError :=
  match v with
  | .map fields => r.fieldErrors errors fields
  | v => FieldError.here (.modelType r.name) v

namespace Shape

/-- The errors of a value that has to be a string or a record. A value that is neither has the
errors of both, each under the name of the one it is not. -/
def mixedErrors (r : RecordShape LeafShape) (v : Value) : List FieldError :=
  if v.isStr then []
  else
    let errors := r.errors LeafShape.errors v
    if errors.isEmpty then []
    else FieldError.under (.key "str") (textErrors v) ++ FieldError.under (.key r.name) errors

/-- The errors of a value in a field of a manifest. -/
def errors (s : Shape) (v : Value) : List FieldError :=
  match s, v with
  | .leaf l, v => l.errors v
  | _, .null => []
  | .mapping, .map fields => textKeyErrors fields
  | .mapping, v => FieldError.here .dictType v
  | .record r, v => r.errors LeafShape.errors v
  | .mixed r, v =>
    match elements? v with
    | some xs => elementErrors (mixedErrors r) xs
    | none => FieldError.here .listType v

end Shape

/-- The errors of a mapping that was written as a manifest. -/
def RecordShape.check (r : RecordShape Shape) (fields : Fields) : List FieldError :=
  r.fieldErrors Shape.errors fields

end AgentPackage
