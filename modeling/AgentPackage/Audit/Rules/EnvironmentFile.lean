import AgentPackage.Audit.Findings
import AgentPackage.Text.IgnoreCase

/-!
# The environment file

Where there is an environment file, it has to be an object whose entry for toolsets is an object
of objects. Addresses of the local machine in it are suspect; the value is followed to find one, as
far as there is room for the calls that this takes.
-/

namespace AgentPackage

namespace LocalAddress

/-- The name of the local machine. -/
def hostName : List Char := "localhost".toList

/-- The number of the local machine. -/
def hostNumber : List Char := "127.0.0.1".toList

/-- Whether a text names the local machine, case being ignored. -/
def occursInText (cs : List Char) : Bool :=
  Text.occursIgnoringCase hostName cs || Text.occursIn hostNumber cs

mutual

/-- Whether a text inside a value, keys apart, names the local machine. -/
def occursInValue : Value → Bool
  | .str s => occursInText s.toList
  | .list xs => occursInSome xs
  | .map es => occursInEntries es
  | _ => false

/-- Whether a text inside some of several values names the local machine. -/
def occursInSome : List Value → Bool
  | [] => false
  | x :: xs => occursInValue x || occursInSome xs

/-- Whether a text inside a value of some entries names the local machine. -/
def occursInEntries : List (Value × Value) → Bool
  | [] => false
  | (_, v) :: es => occursInValue v || occursInEntries es

end

mutual

/-- Looks for a text inside a value, keys apart, that names the local machine. The search ends at
the first one. There is room for so many calls one inside the other: a collection takes three
before its elements are looked at, any other value two. -/
def search (room : Nat) : Value → Except Failure Bool
  | .str s => if room < 2 then .error (.tooDeep .function) else .ok (occursInText s.toList)
  | .list xs => if room < 3 then .error (.tooDeep .function) else searchSome (room - 3) xs
  | .map es => if room < 3 then .error (.tooDeep .function) else searchEntries (room - 3) es
  | _ => if room < 2 then .error (.tooDeep .function) else .ok false

/-- Looks inside several values, one after another. -/
def searchSome (room : Nat) : List Value → Except Failure Bool
  | [] => .ok false
  | x :: xs =>
    match search room x with
    | .ok false => searchSome room xs
    | ended => ended

/-- Looks inside the values of some entries, one after another. -/
def searchEntries (room : Nat) : List (Value × Value) → Except Failure Bool
  | [] => .ok false
  | (_, v) :: es =>
    match search room v with
    | .ok false => searchEntries room es
    | ended => ended

end

end LocalAddress

namespace Rule

/-- The findings about the entry of a toolset in an environment file. -/
def environmentEntry (t : FileTree) (path : Path) (name : String) (entry : Value) : Findings :=
  let subject := "environment.json toolsets." ++ name
  match entry with
  | .map fields =>
    match Fields.get? fields "openApiToolset" with
    | none => Findings.nothing
    | some (.map inner) =>
      match Fields.get? inner "url" with
      | none => Findings.nothing
      | some (.str _) => Findings.nothing
      | some _ =>
        Findings.errorAt t "CES_ENVIRONMENT_OPENAPI_URL_INVALID"
          (subject ++ ".openApiToolset.url must be a string") path "url"
    | some _ =>
      Findings.errorAt t "CES_ENVIRONMENT_OPENAPI_TOOLSET_INVALID"
        (subject ++ ".openApiToolset must be an object") path "openApiToolset"
  | _ =>
    Findings.errorAt t "CES_ENVIRONMENT_TOOLSET_ENTRY_INVALID" (subject ++ " must be an object")
      path name

/-- The findings about the entry for toolsets in an environment file. -/
def environmentToolsets (t : FileTree) (path : Path) (fields : Fields) : Findings :=
  match fields.get? "toolsets" with
  | some (.map entries) =>
    Findings.all entries fun (key, entry) => environmentEntry t path (key.str?.getD "") entry
  | _ =>
    Findings.errorAt t "CES_ENVIRONMENT_TOOLSETS_INVALID"
      "environment.json must contain a 'toolsets' object" path "toolsets"

/-- The findings about addresses in an environment file. -/
def environmentAddresses (path : Path) (settings : AuditSettings) (fields : Fields) : Findings :=
  Findings.when settings.warnOnLocalhost
    (Findings.check (LocalAddress.search callRoom (.map fields)) fun found =>
      Findings.when found
        (Findings.warning "CES_ENVIRONMENT_LOCALHOST_WARNING"
          ("environment.json contains localhost or 127.0.0.1 URLs; " ++
            "use deployed endpoints before import") path (some 1)))

/-- The rule about the environment file. -/
def environmentFile : Rule where
  name := "environment"
  findings t p settings :=
    match p.environment with
    | none => Findings.nothing
    | some ⟨path, .wrongRoot _ _⟩ =>
      Findings.error "CES_ENVIRONMENT_INVALID_ROOT" "environment.json root must be an object"
        path (some 1)
    | some ⟨path, .record fields _⟩ =>
      environmentToolsets t path fields ++ environmentAddresses path settings fields
    | some ⟨path, document⟩ =>
      Findings.error "CES_ENVIRONMENT_PARSE_ERROR"
        ("environment.json parse error: " ++ document.error?.getD "") path (some 1)

end Rule

end AgentPackage
