import AgentPackage.Json.Reader
import AgentPackage.Yaml.Reader
import AgentPackage.Failure

/-!
# Documents

Reading of the structured files of a package: JSON or YAML files whose root has to be a mapping.
A file that cannot be read, is malformed or has another root gives a document without entries
that says so. Scalars that denote no value are not taken up in the document: they end the
reading.
-/

namespace AgentPackage

/-- The formats of structured files. -/
inductive Format where
  /-- JSON. -/
  | json
  /-- YAML. -/
  | yaml
  deriving DecidableEq, Repr

/-- The name of a format in messages. -/
def Format.name : Format → String
  | .json => "JSON"
  | .yaml => "YAML"

/-- What reading a structured file gave. -/
inductive Document where
  /-- The file could not be read. -/
  | unreadable (reason : String)
  /-- The name of the file has the extension of no format. -/
  | unsupported (extension : String)
  /-- The text breaks the rules of the format. -/
  | malformed (reason : String) (text : List Char)
  /-- The root of the document is not a mapping. -/
  | wrongRoot (format : Format) (text : List Char)
  /-- The root of the document is a mapping. -/
  | record (fields : Fields) (text : List Char)

namespace Document

/-- The entries of the root mapping. -/
def fields? : Document → Option Fields
  | .record fields _ => some fields
  | _ => none

/-- What is wrong with the document. -/
def error? : Document → Option String
  | .unreadable reason => some reason
  | .unsupported extension => some ("Unsupported file extension for parse: " ++ extension)
  | .malformed reason _ => some reason
  | .wrongRoot format _ => some (format.name ++ " root must be an object")
  | .record _ _ => none

/-- The text of the file, if it was read. -/
def text? : Document → Option (List Char)
  | .unreadable _ => none
  | .unsupported _ => none
  | .malformed _ text => some text
  | .wrongRoot _ text => some text
  | .record _ text => some text

/-- Whether the document was read and its root is not a mapping. -/
def hasWrongRoot : Document → Bool
  | .wrongRoot _ _ => true
  | _ => false

/-- Either there are entries or there is an error. -/
theorem fields?_isSome_eq (d : Document) : d.fields?.isSome = !d.error?.isSome := by
  cases d <;> rfl

/-- The value of a text in a format, or what is wrong with the text. -/
def valueOf (format : Format) (text : List Char) :
    Except ScalarFault (Except String Value) :=
  match format with
  | .json =>
    match Json.read text with
    | .ok v => .ok (.ok v)
    | .error (.malformed p offset) => .ok (.error (p.describe text offset))
    | .error (.scalar f) => .error f
  | .yaml =>
    match Yaml.read text with
    | .ok v => .ok (.ok v)
    | .error (.scalar f) => .error f
    | .error e => .ok (.error (Text.collapseBlanks (e.message text)))

/-- The document of a text in a format. -/
def ofText (format : Format) (text : List Char) : Except Failure Document :=
  match valueOf format text with
  | .error f => .error (.scalar f)
  | .ok (.error reason) => .ok (.malformed reason text)
  | .ok (.ok (.map fields)) => .ok (.record fields text)
  | .ok (.ok _) => .ok (.wrongRoot format text)

/-- Reads the document of a file in a format; `shown` is the path in messages. -/
def read (t : FileTree) (format : Format) (p : Path) : Except Failure Document :=
  match t.readText p p with
  | .error .unnameable => .error .unnameablePath
  | .error (.access fault) => .ok (.unreadable fault.message)
  | .error (.encoding fault) => .ok (.unreadable fault.message)
  | .ok text => ofText format text

/-- The format that the extension of a path stands for. -/
def formatOf? (p : Path) : Option Format :=
  if p.extension == ".json" then some .json
  else if p.extension == ".yaml" || p.extension == ".yml" then some .yaml
  else none

/-- Reads the document of a file in the format that its extension stands for. -/
def readByExtension (t : FileTree) (p : Path) : Except Failure Document :=
  match formatOf? p with
  | some format => read t format p
  | none => .ok (.unsupported p.extension)

/-- Whether an OpenAPI schema says which version of the format it has. -/
def hasVersionMarker (fields : Fields) : Bool :=
  fields.contains "openapi" || fields.contains "swagger"

/-- The number, counted from one, of the first line of a text file that satisfies `p`, if the
file can be read. -/
def findLine (t : FileTree) (path : Path) (p : List Char → Bool) : Except Failure (Option Nat) :=
  match t.readText path path with
  | .error .unnameable => .error .unnameablePath
  | .error _ => .ok none
  | .ok text => .ok (Text.firstLine p text)

/-- The number of the first line of a text file that holds `token`. -/
def lineContaining (t : FileTree) (path : Path) (token : String) :
    Except Failure (Option Nat) :=
  findLine t path (Text.occursIn token.toList)

/-- The number of the first line of a text file that holds a version marker. -/
def lineOfVersionMarker (t : FileTree) (path : Path) : Except Failure (Option Nat) :=
  findLine t path fun line =>
    Text.occursIn "openapi".toList line || Text.occursIn "swagger".toList line

end Document

end AgentPackage
