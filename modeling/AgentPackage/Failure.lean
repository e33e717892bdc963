import AgentPackage.FileTree.Read
import AgentPackage.Value.Shown

/-!
# Failures

What can end an operation without a result: a path that cannot be followed, a scalar that
denotes no value, a value that is nested too deep to be followed, or a mapping that does not fit
what it is loaded as.
-/

namespace AgentPackage

/-- The kinds of errors that a mapping can have when it is loaded. -/
inductive FieldErrorKind where
  /-- A value breaks a rule of its field. -/
  | valueError (rule : String)
  /-- A value is no integer. -/
  | intType
  /-- A text is no integer. -/
  | intParsing
  /-- A number is too large to be taken for an integer. -/
  | intParsingSize
  /-- A floating-point number is no integer. -/
  | intFromFloat
  /-- A number is infinite or no number. -/
  | finiteNumber
  /-- A value is no truth value. -/
  | boolType
  /-- A text or number is no truth value. -/
  | boolParsing
  /-- A value is no string. -/
  | stringType
  /-- Binary data is no UTF-8 text. -/
  | stringUnicode
  /-- A value is no list. -/
  | listType
  /-- A value is no mapping. -/
  | dictType
  /-- A value is none of the words that are allowed. -/
  | enum (allowed : String)
  /-- A value is no mapping that could be loaded as the named record. -/
  | modelType (name : String)
  /-- A key is not one of the fields. -/
  | extraForbidden
  /-- A key is no string. -/
  | invalidKey
  deriving DecidableEq, Repr

/-- The name of a kind of error. -/
def FieldErrorKind.name : FieldErrorKind → String
  | .valueError _ => "value_error"
  | .intType => "int_type"
  | .intParsing => "int_parsing"
  | .intParsingSize => "int_parsing_size"
  | .intFromFloat => "int_from_float"
  | .finiteNumber => "finite_number"
  | .boolType => "bool_type"
  | .boolParsing => "bool_parsing"
  | .stringType => "string_type"
  | .stringUnicode => "string_unicode"
  | .listType => "list_type"
  | .dictType => "dict_type"
  | .enum _ => "enum"
  | .modelType _ => "model_type"
  | .extraForbidden => "extra_forbidden"
  | .invalidKey => "invalid_key"

/-- The wording of a kind of error. -/
def FieldErrorKind.message : FieldErrorKind → String
  | .valueError rule => "Value error, " ++ rule
  | .intType => "Input should be a valid integer"
  | .intParsing => "Input should be a valid integer, unable to parse string as an integer"
  | .intParsingSize => "Unable to parse input string as an integer, exceeded maximum size"
  | .intFromFloat => "Input should be a valid integer, got a number with a fractional part"
  | .finiteNumber => "Input should be a finite number"
  | .boolType => "Input should be a valid boolean"
  | .boolParsing => "Input should be a valid boolean, unable to interpret input"
  | .stringType => "Input should be a valid string"
  | .stringUnicode =>
    "Input should be a valid string, unable to parse raw data as a unicode string"
  | .listType => "Input should be a valid list"
  | .dictType => "Input should be a valid dictionary"
  | .enum allowed => "Input should be " ++ allowed
  | .modelType name => "Input should be a valid dictionary or instance of " ++ name
  | .extraForbidden => "Extra inputs are not permitted"
  | .invalidKey => "Keys should be strings"

/-- One step on the way to a value inside a document. -/
inductive Part where
  /-- The value under a key, or a member of a union of shapes. -/
  | key (name : String)
  /-- The element at an index. -/
  | index (i : Nat)
  deriving DecidableEq, Repr

/-- The text of a step. -/
def Part.text : Part → String
  | .key name => name
  | .index i => toString i

/-- The dotted text of a way. -/
def Part.dotted (parts : List Part) : String :=
  ".".intercalate (parts.map Part.text)

/-- The text of a step where texts of steps are put together: a key with a dot is marked. -/
def Part.marked : Part → String
  | .key name => if name.toList.contains '.' then "`" ++ name ++ "`" else name
  | .index i => toString i

/-- An error of a mapping: what is wrong, where, and with which value. -/
structure FieldError where
  /-- What is wrong. -/
  kind : FieldErrorKind
  /-- The way to the value. -/
  location : List Part
  /-- The value. -/
  input : Value

/-- The errors of a mapping that was to be loaded as the named record. -/
structure InvalidRecord where
  /-- The name of the record. -/
  record : String
  /-- The errors, at least one. -/
  errors : List FieldError

/-- The lines by which an error is shown. -/
def FieldError.lines (e : FieldError) : List String :=
  [".".intercalate (e.location.map Part.marked),
    "  " ++ e.kind.message ++ " [type=" ++ e.kind.name ++ ", input_value=" ++
      Value.abbreviated e.input.shown ++ ", input_type=" ++ e.input.typeName ++ "]",
    "    For further information visit https://errors.pydantic.dev/2.14/v/" ++ e.kind.name]

/-- The text by which the errors of a mapping are shown. -/
def InvalidRecord.message (r : InvalidRecord) : String :=
  let count := toString r.errors.length ++
    (if r.errors.length == 1 then " validation error for " else " validation errors for ")
  "\n".intercalate ((count ++ r.record) :: r.errors.flatMap FieldError.lines)

/-- What ends an operation without a result. -/
inductive Failure where
  /-- A path cannot be followed or read. -/
  | access (fault : AccessFault)
  /-- The links of a path lead back to themselves. -/
  | linkLoop (path : String)
  /-- A path holds a NUL character. -/
  | unnameablePath
  /-- A scalar of a document denotes no value. -/
  | scalar (fault : ScalarFault)
  /-- A mapping cannot be loaded. -/
  | invalidRecord (record : InvalidRecord)
  /-- The text of a configuration file breaks the rules of JSON. -/
  | malformedConfiguration (path reason : String)
  /-- A configuration file cannot be read, or its content is no configuration. -/
  | unloadableConfiguration (path reason : String)
  /-- There is no rule of that name. -/
  | unknownRule (name : String)
  /-- A rule ended with a message of its own. -/
  | stated (message : String)

/-- Following a value took more calls than there is room for. -/
@[match_pattern]
def Failure.tooDeep (tooMany : Call) : Failure :=
  .scalar (@ScalarFault.endlessText tooMany)

/-- The wording of a failure. -/
def Failure.message : Failure → String
  | .access fault => fault.message
  | .linkLoop path => "Symlink loop from " ++ Text.quoted path
  | .unnameablePath => "embedded null byte"
  | .scalar fault => fault.message
  | .invalidRecord record => record.message
  | .malformedConfiguration path reason =>
    "Invalid JSON in config file " ++ path ++ ": " ++ reason
  | .unloadableConfiguration path reason =>
    "Failed to load config from " ++ path ++ ": " ++ reason
  | .unknownRule name => Text.quoted name
  | .stated message => message

namespace FileTree

/-- The file or directory that a path leads to, without links on the way. -/
def resolve (t : FileTree) (cwd p : Path) : Except Failure Path :=
  let p := absolute cwd p
  if !isNameable p then .error .unnameablePath
  else
    let real := t.canonical p
    match t.stat real with
    | .error .linkLoop => .error (.linkLoop real.text)
    | _ => .ok real

end FileTree

end AgentPackage
