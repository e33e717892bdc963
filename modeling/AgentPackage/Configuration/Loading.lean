import AgentPackage.Configuration.Basic
import AgentPackage.Configuration.Coercion
import AgentPackage.Document
import AgentPackage.Package.Model
import AgentPackage.Manifest.Shape

/-!
# Loading configurations

A configuration is loaded from a mapping with one section for the rules, one for the report and
one for logging. All errors of the mapping are found at once. A configuration file is looked for
in a directory and in those it lies in; without one the defaults count.
-/

namespace AgentPackage

namespace Configuration

/-- What was read of a part of a configuration: a value, and the errors because of which it does
not count if there are any. -/
structure Part (α : Type) where
  /-- The value. -/
  value : α
  /-- The errors. -/
  errors : List FieldError := []

/-- The part that a field of a mapping holds; the default `value` if it holds none. -/
def Part.field {α : Type} (key otherKey : String) (value : α)
    (read : Value → Except (List FieldError) α) (fields : Fields) : Part α :=
  let shape : FieldShape Unit := ⟨key, otherKey, ()⟩
  match shape.find? fields with
  | none => { value }
  | some (found, v) =>
    match read v with
    | .ok value => { value }
    | .error errors => { value, errors := FieldError.under (.key found) errors }

/-- Reads a value with one error at most, which is at the value itself. -/
def single {α : Type} (read : Value → Except FieldErrorKind α) (v : Value) :
    Except (List FieldError) α :=
  match read v with
  | .ok a => .ok a
  | .error kind => .error (FieldError.here kind v)

/-- A limit of depth: an integer that is at least one. -/
def depthLimit (v : Value) : Except FieldErrorKind Int := do
  let i ← Coercion.int v
  if i < 1 then throw (.valueError "depth limits must be >= 1") else return i

/-- A list of strings. -/
def texts (v : Value) : Except (List FieldError) (List String) :=
  match v with
  | .list xs =>
    match Shape.elementErrors Shape.textErrors xs with
    | [] => .ok (xs.filterMap Value.str?)
    | errors => .error errors
  | v => .error (FieldError.here .listType v)

/-- The wording of a choice between words. -/
def choice (words : List String) : String :=
  let quoted := words.map Text.quoted
  ", ".intercalate quoted.dropLast ++ " or " ++ quoted.getLastD ""

/-- One of the words for some values. -/
def word {α : Type} (name : α → String) (all : List α) (v : Value) : Except FieldErrorKind α :=
  match all.find? fun a => v.isString (name a) with
  | some a => .ok a
  | none => .error (.enum (choice (all.map name)))

/-- A section, read by `read`. -/
def sectionOf {α : Type} (name : String) (read : Fields → Part α) (v : Value) :
    Except (List FieldError) α :=
  match v with
  | .map fields =>
    let part := read fields
    if part.errors.isEmpty then .ok part.value else .error part.errors
  | v => .error (FieldError.here (.modelType name) v)

/-- Reads the settings of the rules. -/
def auditSettings (fields : Fields) : Part AuditSettings :=
  let base : AuditSettings := {}
  let root := Part.field "rootDepthLimit" "root_depth_limit" base.rootDepthLimit
    (single depthLimit) fields
  let toolset := Part.field "toolsetDepthLimit" "toolset_depth_limit" base.toolsetDepthLimit
    (single depthLimit) fields
  let guardrail := Part.field "guardrailDepthLimit" "guardrail_depth_limit"
    base.guardrailDepthLimit (single depthLimit) fields
  let unsupported := Part.field "unsupportedDirectories" "unsupported_directories"
    base.unsupportedDirectories texts fields
  let localhost := Part.field "warnOnLocalhost" "warn_on_localhost" base.warnOnLocalhost
    (single Coercion.bool) fields
  let warnings := Part.field "failOnWarnings" "fail_on_warnings" base.failOnWarnings
    (single Coercion.bool) fields
  { value :=
      { rootDepthLimit := root.value
        toolsetDepthLimit := toolset.value
        guardrailDepthLimit := guardrail.value
        unsupportedDirectories := unsupported.value
        warnOnLocalhost := localhost.value
        failOnWarnings := warnings.value }
    errors := root.errors ++ toolset.errors ++ guardrail.errors ++ unsupported.errors ++
      localhost.errors ++ warnings.errors }

/-- Reads the layout of the report. -/
def outputFormatOf (fields : Fields) : Part OutputFormat :=
  Part.field "format" "format" .table (single (word OutputFormat.name OutputFormat.all)) fields

/-- Reads how much is logged. -/
def logLevelOf (fields : Fields) : Part LogLevel :=
  Part.field "level" "level" .warn (single (word LogLevel.name LogLevel.all)) fields

/-- The names of the sections. -/
def sectionNames : List String := ["validation", "output", "logging"]

/-- The errors of the keys that name no section. -/
def extraErrors (fields : Fields) : List FieldError :=
  (fields.filter fun e => !sectionNames.any fun name => e.1.isString name).flatMap fun e =>
    FieldError.under (keyPart e.1) (FieldError.here .extraForbidden e.2)

/-- Reads a mapping. -/
def read (fields : Fields) : Part Configuration :=
  let audit := Part.field "validation" "validation" {}
    (sectionOf "ValidationConfig" auditSettings) fields
  let output := Part.field "output" "output" .table
    (sectionOf "OutputConfig" outputFormatOf) fields
  let logging := Part.field "logging" "logging" .warn
    (sectionOf "LoggingConfig" logLevelOf) fields
  { value := ⟨audit.value, output.value, logging.value⟩
    errors := audit.errors ++ output.errors ++ logging.errors ++ extraErrors fields }

/-- The configuration that a mapping denotes, or all of its errors. -/
def ofFields (fields : Fields) : Except InvalidRecord Configuration :=
  let part := read fields
  if part.errors.isEmpty then .ok part.value else .error ⟨"CesvalConfig", part.errors⟩

/-- The name of a configuration file. -/
def fileName : String := ".cesval.json"

/-- The configuration in a text, or why there is none: `path` is that of the file. -/
def ofText (path : String) (text : List Char) : Except Failure Configuration :=
  match Json.read text with
  | .error (.malformed p offset) => .error (.malformedConfiguration path (p.describe text offset))
  | .error (.scalar fault) => .error (.unloadableConfiguration path fault.message)
  | .ok (.map fields) =>
    match ofFields fields with
    | .ok c => .ok c
    | .error r => .error (.unloadableConfiguration path r.message)
  | .ok v => .error (.unloadableConfiguration path
      ("cesval.config.CesvalConfig() argument after ** must be a mapping, not " ++ v.typeName))

/-- The configuration in a file, `cwd` being the working directory. -/
def ofFile (t : FileTree) (cwd path : Path) : Except Failure Configuration :=
  match t.readText path (FileTree.absolute cwd path) with
  | .error fault => .error (.unloadableConfiguration path.text fault.message)
  | .ok text => ofText path.text text

/-- The configuration file that counts in a directory: its own, or that of the nearest directory
it lies in that has one. -/
def find? (t : FileTree) (cwd start : Path) : Except Failure (Option Path) := do
  let start ← t.resolve cwd start
  (start.upward.map fun dir => dir.entry fileName).findM? fun path =>
    Package.access path (t.pathExists path)

/-- The configuration in a file, or the default if there is no such file. -/
def load (t : FileTree) (cwd path : Path) : Except Failure Configuration := do
  if ← Package.access path (t.pathExists (FileTree.absolute cwd path)) then ofFile t cwd path
  else return {}

/-- The configuration in the file `path?`, or in the one that counts in the directory `start`. -/
def loadFrom (t : FileTree) (cwd : Path) (path? : Option Path) (start : Path) :
    Except Failure Configuration := do
  match path? with
  | some path => load t cwd path
  | none =>
    match ← find? t cwd start with
    | some path => load t cwd path
    | none => return {}

end Configuration

end AgentPackage
