import AgentPackage.Proofs.Instruction.Scanning
import AgentPackage.Proofs.Instruction.Sections
import AgentPackage.Proofs.Text.Lines

/-!
# Instructions from joined texts

Reading goes on in the lines of a second text as if it started there, once no section of the first
text is open. So two texts that are joined by a line feed give what they give one by one, with the
lines of the second one counted on.

## Main definitions

* `Instruction.shift`: an instruction with its lines counted from further down;
* `Markup.State.after`: a state behind what was read before.

## Main results

* `Markup.readLines_concat_return`: a carriage return at the end of a text is not seen;
* `Markup.foldl_step_after`: reading goes on behind another text as at the start;
* `Markup.parse_append_newline`: the instruction of joined texts.
-/

namespace AgentPackage

/-- The section with its lines counted from `n` lines further down. -/
def Section.shift (n : Nat) (s : Section) : Section :=
  ⟨s.name, s.startLine + n, s.endLine + n⟩

/-- The open section with its line counted from `n` lines further down. -/
def OpenSection.shift (n : Nat) (o : OpenSection) : OpenSection :=
  ⟨o.name, o.startLine + n⟩

/-- The reference with its line counted from `n` lines further down. -/
def Reference.shift (n : Nat) (r : Reference) : Reference :=
  ⟨r.kind, r.name, r.line + n⟩

/-- The call with its line counted from `n` lines further down. -/
def ToolCall.shift (n : Nat) (c : ToolCall) : ToolCall :=
  ⟨c.operation, c.line + n⟩

/-- The instruction with its lines counted from `n` lines further down. -/
def Instruction.shift (n : Nat) (i : Instruction) : Instruction :=
  { i with
    sections := i.sections.map (Section.shift n)
    references := i.references.map (Reference.shift n)
    toolCalls := i.toolCalls.map (ToolCall.shift n)
    unclosed := i.unclosed.map (OpenSection.shift n) }

/-- The line of an error is counted on with the others. -/
theorem Instruction.parseErrorLine?_shift (n : Nat) (i : Instruction) :
    (i.shift n).parseErrorLine? = i.parseErrorLine?.map (· + n) := by
  simp only [parseErrorLine?, shift, List.head?_map, Option.map_map]
  rfl

namespace Text

/-- A carriage return at the end of a text is trimmed. -/
theorem trimChars_concat_return (cs : List Char) : trimChars (cs ++ ['\r']) = trimChars cs := by
  have hright : ∀ cs, trimRight (cs ++ ['\r']) = trimRight cs := by
    intro cs
    rw [trimRight, List.reverse_concat, List.dropWhile_cons_of_pos (by decide)]
    rfl
  rw [trimChars, trimChars, trimLeft, trimLeft, List.dropWhile_append]
  split
  · rename_i hblank
    rw [List.isEmpty_iff.mp hblank]
    rfl
  · exact hright _

end Text

namespace Markup

section Return

/-- A carriage return at the end of a line is not seen. -/
theorem step_concat_return (s : State) (line : List Char) (number : Nat) :
    s.step (line ++ ['\r'], number) = s.step (line, number) := by
  simp only [State.step, Text.trimChars_concat_return, references_concat_return,
    calls_concat_return]

/-- A carriage return at the end of a text is not seen. -/
theorem readLines_concat_return (text : List Char) :
    readLines (text ++ ['\r']) = readLines text := by
  obtain ⟨front, last, hlines, hreturn⟩ := Text.exists_linesFrom_concat_return [] text
  unfold readLines Text.lines
  rw [hlines, hreturn, List.zipIdx_append, List.zipIdx_append, List.foldl_append,
    List.foldl_append]
  exact step_concat_return _ _ _

end Return

section After

/-- What was read before, and a state of reading on with its lines counted from `n` lines further
down. -/
def State.after (before : State) (n : Nat) (s : State) : State where
  sections := before.sections ++ s.sections.map (Section.shift n)
  references := before.references ++ s.references.map (Reference.shift n)
  toolCalls := before.toolCalls ++ s.toolCalls.map (ToolCall.shift n)
  opened := s.opened.map (OpenSection.shift n)

variable (before : State) (n : Nat)

/-- At the start nothing is added to what was read before. -/
theorem State.after_start {before : State} (h : before.opened = []) : before.after n {} = before := by
  obtain ⟨sections, references, toolCalls, opened⟩ := before
  obtain rfl : opened = [] := h
  simp [State.after]

/-- The last section of a name is found wherever lines are counted from. -/
theorem takeLast?_map_shift (name : String) (opened : List OpenSection) :
    takeLast? name (opened.map (OpenSection.shift n)) =
      (takeLast? name opened).map fun r => (r.1.shift n, r.2.map (OpenSection.shift n)) := by
  simp only [takeLast?, ← List.map_reverse, List.find?_map, List.eraseP_map, Option.map_map,
    Function.comp_def]
  rfl

/-- A section is opened as it is at the start. -/
theorem openSection_after (s : State) (number : Nat) (name? : Option String) :
    (before.after n s).openSection (number + n) name? =
      before.after n (s.openSection number name?) := by
  cases name? <;> simp [State.openSection, State.after, OpenSection.shift]

/-- A section is closed as it is at the start. -/
theorem closeSection_after (s : State) (number : Nat) (name? : Option String) :
    (before.after n s).closeSection (number + n) name? =
      before.after n (s.closeSection number name?) := by
  cases name? with
  | none => rfl
  | some name =>
    simp only [State.closeSection, State.after, Option.bind_some, takeLast?_map_shift]
    cases takeLast? name s.opened <;> simp [Section.shift, OpenSection.shift]

/-- An examples section is open as it is at the start. -/
theorem inExamples_after (s : State) : (before.after n s).inExamples = s.inExamples := by
  simp only [State.inExamples, State.after, List.any_map]
  rfl

/-- A line is read as it is at the start. -/
theorem step_after (s : State) (line : List Char) (number : Nat) :
    (before.after n s).step (line, number + n) = before.after n (s.step (line, number)) := by
  simp only [State.step, openSection_after, closeSection_after, inExamples_after]
  generalize (s.openSection number _).closeSection number _ = s
  split <;> simp [State.after, Reference.shift, ToolCall.shift, Function.comp_def]

/-- Reading goes on as at the start. -/
theorem foldl_step_after (ls : List (List Char)) (s : State) (k : Nat) :
    (ls.zipIdx (k + n)).foldl State.step (before.after n s) =
      before.after n ((ls.zipIdx k).foldl State.step s) := by
  -- from any state, as the lines in front have already changed it
  induction ls generalizing s k with
  | nil => rfl
  | cons line ls ih =>
    rw [List.zipIdx_cons, List.zipIdx_cons, List.foldl_cons, List.foldl_cons, step_after,
      Nat.add_right_comm, ih]

/-- Behind a text that leaves no section open another text is read as at the start. -/
theorem readLines_append_newline {a : List Char} (h : (readLines a).opened = []) (b : List Char) :
    readLines (a ++ '\n' :: b) = (readLines a).after (Text.lines a).length (readLines b) := by
  obtain ⟨front, ha, hlines⟩ := Text.lines_append_newline a b
  -- the carriage return at which the line feed joins is not seen, if there is one
  have hfront : readLines front = readLines a ∧
      (Text.lines front).length = (Text.lines a).length := by
    rcases ha with rfl | rfl
    · exact ⟨rfl, rfl⟩
    · refine ⟨(readLines_concat_return front).symm, ?_⟩
      obtain ⟨init, last, hinit, hreturn⟩ := Text.exists_linesFrom_concat_return [] front
      rw [Text.lines, Text.lines, hinit, hreturn, List.length_append, List.length_append]
      rfl
  have hstart : readLines front = (readLines a).after (Text.lines a).length {} := by
    rw [hfront.1, State.after_start _ h]
  rw [← hfront.2] at hstart ⊢
  calc readLines (a ++ '\n' :: b)
      = ((Text.lines b).zipIdx (1 + (Text.lines front).length)).foldl State.step
          (readLines front) := by
        rw [readLines, hlines, List.zipIdx_append, List.foldl_append]
        rfl
    _ = (readLines a).after (Text.lines front).length (readLines b) := by
        rw [hstart, foldl_step_after]
        rfl

end After

/-- Two texts that are joined by a line feed, the first of which leaves no section open, give the
sections, references and calls of the first one and then those of the second one, with the lines of
the second one counted on behind those of the first. The error is that of the second text, in the
lines that are counted on. -/
theorem parse_append_newline {agentName : String} {path : Path} {a : List Char}
    (h : (parse agentName path a).parseError? = none) (b : List Char) :
    let first := parse agentName path a
    let second := (parse agentName path b).shift (Text.lines a).length
    let joined := parse agentName path (a ++ '\n' :: b)
    joined.sections = first.sections ++ second.sections ∧
      joined.references = first.references ++ second.references ∧
      joined.toolCalls = first.toolCalls ++ second.toolCalls ∧
      joined.parseError? = second.parseError? ∧
      joined.parseErrorLine? =
        (parse agentName path b).parseErrorLine?.map (· + (Text.lines a).length) := by
  have hjoined := readLines_append_newline (parseError?_eq_none.mp h) b
  have hunclosed : (parse agentName path (a ++ '\n' :: b)).unclosed =
      ((parse agentName path b).shift (Text.lines a).length).unclosed := by
    simp only [parse, Instruction.shift, hjoined, State.after]
  refine ⟨?_, ?_, ?_, ?_, ?_⟩
  · simp only [parse, Instruction.shift, hjoined, State.after]
  · simp only [parse, Instruction.shift, hjoined, State.after]
  · simp only [parse, Instruction.shift, hjoined, State.after]
  · rw [Instruction.parseError?, Instruction.parseError?, hunclosed]
    rfl
  · rw [← Instruction.parseErrorLine?_shift, Instruction.parseErrorLine?,
      Instruction.parseErrorLine?, hunclosed]

section Greeting

/-- A text that leaves no section open, though it closes one too many, and ends in a carriage
return. -/
def greeting : List Char := "<role>Greet {@AGENT: guest}</role>\n</persona>\r".toList

/-- A text that leaves two sections open. -/
def farewell : List Char := "<examples>\n<role>\nclose_door(now)\n<ROLE>\n</role>".toList

/-- The two texts joined: the sections that are left open stand two lines further down. -/
theorem parse_append_newline_greeting :
    (parse "host" ⟨.root, ["a.txt"]⟩ greeting).parseError? = none ∧
      let first := parse "host" ⟨.root, ["a.txt"]⟩ greeting
      let second := (parse "host" ⟨.root, ["a.txt"]⟩ farewell).shift (Text.lines greeting).length
      let joined := parse "host" ⟨.root, ["a.txt"]⟩ (greeting ++ '\n' :: farewell)
      (joined.sections = first.sections ++ second.sections ∧
        joined.references = first.references ++ second.references ∧
        joined.toolCalls = first.toolCalls ++ second.toolCalls ∧
        joined.parseError? = second.parseError? ∧
        joined.parseErrorLine? = (parse "host" ⟨.root, ["a.txt"]⟩ farewell).parseErrorLine?.map
          (· + (Text.lines greeting).length)) ∧
      joined.toolCalls = [⟨"close_door", 5⟩] ∧
      joined.parseError? =
        some "Unclosed section(s): <examples> at line 3, <role> at line 4" := by
  have h : (parse "host" ⟨.root, ["a.txt"]⟩ greeting).parseError? = none := by decide +kernel
  refine ⟨h, parse_append_newline h farewell, ?_⟩
  decide +kernel

end Greeting

end Markup

end AgentPackage
