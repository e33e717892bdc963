import AgentPackage.Instruction.Basic
import AgentPackage.Text.Blank
import AgentPackage.Text.IgnoreCase
import AgentPackage.Text.Lines
import AgentPackage.Failure

/-!
# Instruction markup

Reading of instruction texts, line by line. A section is opened by a tag at the start of a line,
blanks apart, and closed by the first closing tag of a line; a closing tag closes the section of
its name that was opened last. References may stand anywhere, calls of tools count inside an
examples section only.
-/

namespace AgentPackage.Markup

/-- The names of sections. -/
def sectionNames : List String :=
  ["role", "persona", "constraints", "taskflow", "examples"]

/-- The name of the section whose calls of tools count. -/
def examplesName : String := "examples"

/-- The name of a section that stands at the start of `cs` with a closing bracket after it, as
it is written. -/
def tagName? (cs : List Char) : Option (List Char) :=
  sectionNames.findSome? fun name =>
    match Text.dropWord? name.toList cs with
    | some ('>' :: _) => some (cs.take name.length)
    | _ => none

/-- A name of a section in lower case. -/
def lowered (name : List Char) : String :=
  Text.lower (String.ofList name)

/-- The name of the section that a line without blanks at its start opens. -/
def opening? : List Char → Option String
  | '<' :: cs => (tagName? cs).map lowered
  | _ => none

/-- The name of the section that the first closing tag of a line names. -/
def closing? : List Char → Option String
  | [] => none
  | c :: cs =>
    match c, cs with
    | '<', '/' :: rest =>
      match tagName? rest with
      | some name => some (lowered name)
      | none => closing? cs
    | _, _ => closing? cs

/-- The text in front of a reference's name. -/
def marker : ReferenceKind → List Char
  | .agent => "\x7b@AGENT:".toList
  | .tool => "\x7b@TOOL:".toList

/-- The name of the reference of a kind that stands at the start of `cs`, and the characters
behind its closing brace. The name may be blank but not empty. -/
def referenceAt? (kind : ReferenceKind) (cs : List Char) : Option (String × List Char) :=
  if (marker kind).isPrefixOf cs then
    let body := cs.drop (marker kind).length
    let name := body.takeWhile (· != '\x7d')
    match body.dropWhile (· != '\x7d') with
    | _ :: rest => if name.isEmpty then none else some (String.ofList (Text.trimChars name), rest)
    | [] => none
  else none

/-- The rest behind a reference is shorter than the text from its start. -/
theorem length_lt_of_referenceAt? {kind : ReferenceKind} {cs rest : List Char} {name : String}
    (h : referenceAt? kind cs = some (name, rest)) : rest.length < cs.length := by
  unfold referenceAt? at h
  split at h
  · simp only at h
    split at h
    · rename_i c tail hd
      split at h
      · simp at h
      · simp only [Option.some.injEq, Prod.mk.injEq] at h
        have h1 := congrArg List.length hd
        have h2 := (List.dropWhile_sublist (fun c => c != '\x7d')
          (l := cs.drop (marker kind).length)).length_le
        simp only [List.length_cons, List.length_drop] at h1 h2
        rw [← h.2]
        omega
    · simp at h
  · simp at h

/-- The names of the references of a kind in a line, in order. -/
def references (kind : ReferenceKind) (cs : List Char) : List String :=
  match _h : referenceAt? kind cs with
  | some (name, rest) => name :: references kind rest
  | none =>
    match cs with
    | [] => []
    | _ :: cs => references kind cs
termination_by cs.length
decreasing_by
  · exact length_lt_of_referenceAt? (by assumption)
  · simp

/-- Whether a called name may start with `c`. -/
def startsName (c : Char) : Bool :=
  c.isAlpha || c == '_'

/-- Whether a called name may go on with `c`. -/
def continuesName (c : Char) : Bool :=
  c.isAlphanum || c == '_' || c == '.'

/-- The name of the call that stands at the start of `cs`, and the characters behind its closing
parenthesis. -/
def callAt? (cs : List Char) : Option (String × List Char) :=
  match cs with
  | c :: _ =>
    if startsName c then
      match cs.dropWhile continuesName with
      | '(' :: arguments =>
        match arguments.dropWhile (· != ')') with
        | _ :: rest => some (String.ofList (cs.takeWhile continuesName), rest)
        | [] => none
      | _ => none
    else none
  | [] => none

/-- The rest behind a call is shorter than the text from its start. -/
theorem length_lt_of_callAt? {cs rest : List Char} {name : String}
    (h : callAt? cs = some (name, rest)) : rest.length < cs.length := by
  unfold callAt? at h
  split at h
  · rename_i c tail
    split at h
    · split at h
      · rename_i arguments ha
        split at h
        · rename_i d rest' hr
          simp only [Option.some.injEq, Prod.mk.injEq] at h
          have h1 := congrArg List.length ha
          have h2 := congrArg List.length hr
          have h3 := (List.dropWhile_sublist continuesName (l := c :: tail)).length_le
          have h4 := (List.dropWhile_sublist (fun c => c != ')') (l := arguments)).length_le
          simp only [List.length_cons] at h1 h2 h3 ⊢
          rw [← h.2]
          omega
        · simp at h
      · simp at h
    · simp at h
  · simp at h

/-- The names of the calls in a line, in order. -/
def calls (cs : List Char) : List String :=
  match _h : callAt? cs with
  | some (name, rest) => name :: calls rest
  | none =>
    match cs with
    | [] => []
    | _ :: cs => calls cs
termination_by cs.length
decreasing_by
  · exact length_lt_of_callAt? (by assumption)
  · simp

/-- Words that look like calls in prose and never are tools. -/
def falseCalls : List String :=
  ["e", "g", "i", "s", "t", "name", "step", "action", "trigger", "subtask", "user", "agent",
   "example", "tool_call"]

/-- Whether a called name is likely that of a tool: a dotted name is; any other name has at least
three characters, among them a lower-case letter and an upper-case letter or an underscore. -/
def isLikelyToolCall (operation : String) : Bool :=
  if falseCalls.contains (Text.lower operation) then false
  else
    let cs := operation.toList
    if cs.contains '.' then true
    else 3 ≤ cs.length && cs.any (fun c => 'a' ≤ c && c ≤ 'z') &&
      cs.any fun c => ('A' ≤ c && c ≤ 'Z') || c == '_'

/-- The state of the reading of an instruction text. -/
structure State where
  /-- The sections that have been closed. -/
  sections : List Section := []
  /-- The references that have been read. -/
  references : List Reference := []
  /-- The calls of tools that have been read. -/
  toolCalls : List ToolCall := []
  /-- The sections that are open, in the order of their opening tags. -/
  opened : List OpenSection := []

/-- The last of `opened` with a name, and the others. -/
def takeLast? (name : String) (opened : List OpenSection) :
    Option (OpenSection × List OpenSection) :=
  let back := opened.reverse
  (back.find? fun s => s.name == name).map fun s =>
    (s, (back.eraseP fun s => s.name == name).reverse)

namespace State

/-- Opens a section in a line, if there is one to open. -/
def openSection (number : Nat) (name? : Option String) (s : State) : State :=
  match name? with
  | some name => { s with opened := s.opened ++ [⟨name, number⟩] }
  | none => s

/-- Closes the last open section of a name in a line, if there is one to close. -/
def closeSection (number : Nat) (name? : Option String) (s : State) : State :=
  match name?.bind fun name => takeLast? name s.opened with
  | some (closed, opened) =>
    { s with
      opened := opened
      sections := s.sections ++ [⟨closed.name, closed.startLine, number⟩] }
  | none => s

/-- Whether an examples section is open. -/
def inExamples (s : State) : Bool :=
  s.opened.any fun o => o.name == examplesName

/-- Reads one line. -/
def step (s : State) (numbered : List Char × Nat) : State :=
  let (line, number) := numbered
  let stripped := Text.trimChars line
  let s := (s.openSection number (opening? stripped)).closeSection number (closing? stripped)
  -- agents come before tools, wherever they stand in the line
  let found (kind : ReferenceKind) : List Reference :=
    (Markup.references kind line).map fun name => ⟨kind, name, number⟩
  -- a call counts in the line that opens the examples, but not in the one that closes them
  let calls :=
    if s.inExamples then
      ((Markup.calls line).filter isLikelyToolCall).map fun name => ToolCall.mk name number
    else []
  { s with
    references := s.references ++ found .agent ++ found .tool
    toolCalls := s.toolCalls ++ calls }

end State

/-- The state behind all lines of a text. -/
def readLines (text : List Char) : State :=
  ((Text.lines text).zipIdx 1).foldl State.step {}

/-- The instruction that a text holds. -/
def parse (agentName : String) (path : Path) (text : List Char) : Instruction :=
  let s := readLines text
  { agentName, path, sections := s.sections, references := s.references,
    toolCalls := s.toolCalls, unclosed := s.opened }

/-- Reads the instruction in a file. -/
def parseFile (t : FileTree) (agentName : String) (path : Path) : Except Failure Instruction :=
  match t.readText path path with
  | .ok text => .ok (parse agentName path text)
  | .error .unnameable => .error .unnameablePath
  | .error (.access fault) => .ok { agentName, path, readError := some fault.message }
  | .error (.encoding fault) => .ok { agentName, path, readError := some fault.message }

end AgentPackage.Markup
