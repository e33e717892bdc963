import AgentPackage.Proofs.Instruction.Sections
import AgentPackage.Proofs.Text.Lines

/-!
# Line numbers of instructions

What is read of an instruction is recorded with the number of its line. No step of the reading makes
up a number: those in the state are numbers of lines that have been read, and so those in the
instruction are numbers of lines of its text.

## Main definitions

* `Markup.State.Within`: the line numbers of a state have a property.

## Main results

* `Markup.State.Within.step`: reading a line records its own number alone;
* `Markup.within_readLines`: the numbers behind all lines of a text are those of its lines;
* `Markup.isLineNumber_parseFile`: so are the numbers in the instruction of a file.
-/

namespace AgentPackage

namespace Markup

namespace State

variable {P : Nat → Prop} {s : State} {number : Nat}

/-- All line numbers that are recorded have a property. -/
structure Within (P : Nat → Prop) (s : State) : Prop where
  /-- Those of the references. -/
  references : ∀ r ∈ s.references, P r.line
  /-- Those of the calls. -/
  toolCalls : ∀ c ∈ s.toolCalls, P c.line
  /-- Those of the sections that are open. -/
  opened : ∀ o ∈ s.opened, P o.startLine
  /-- Those of the sections that have been closed. -/
  sections : ∀ x ∈ s.sections, P x.startLine ∧ P x.endLine

/-- A section is opened with the number of its line. -/
theorem Within.openSection (h : s.Within P) (hnumber : P number) (name? : Option String) :
    (s.openSection number name?).Within P := by
  cases name? with
  | none => exact h
  | some name =>
    refine ⟨h.references, h.toolCalls, fun o ho => ?_, h.sections⟩
    rcases List.mem_append.mp ho with ho | ho
    · exact h.opened o ho
    · rw [List.mem_singleton.mp ho]
      exact hnumber

/-- A section is closed with the number of its line, and keeps the one with which it was opened. -/
theorem Within.closeSection (h : s.Within P) (hnumber : P number) (name? : Option String) :
    (s.closeSection number name?).Within P := by
  unfold State.closeSection
  split
  · rename_i closed opened htake
    obtain ⟨name, -, htake⟩ := Option.bind_eq_some_iff.mp htake
    obtain ⟨front, back, hopened, rfl, -, -⟩ := takeLast?_eq_some htake
    have hold : ∀ o ∈ front ++ closed :: back, P o.startLine := hopened ▸ h.opened
    refine ⟨h.references, h.toolCalls, fun o ho => hold o ?_, fun x hx => ?_⟩
    · rcases List.mem_append.mp ho with ho | ho
      · exact List.mem_append_left _ ho
      · exact List.mem_append_right _ (List.mem_cons_of_mem _ ho)
    · rcases List.mem_append.mp hx with hx | hx
      · exact h.sections x hx
      · rw [List.mem_singleton.mp hx]
        exact ⟨hold closed (by simp), hnumber⟩
  · exact h

/-- Reading a line records its own number alone. -/
theorem Within.step (h : s.Within P) (hnumber : P number) (line : List Char) :
    (s.step (line, number)).Within P := by
  have htags := (h.openSection hnumber (opening? (Text.trimChars line))).closeSection hnumber
    (closing? (Text.trimChars line))
  have hfound : ∀ kind, ∀ r ∈ (Markup.references kind line).map fun name =>
      Reference.mk kind name number, P r.line := by
    intro kind r hr
    obtain ⟨name, -, rfl⟩ := List.mem_map.mp hr
    exact hnumber
  refine ⟨fun r hr => ?_, fun c hc => ?_, htags.opened, htags.sections⟩
  · rcases List.mem_append.mp hr with hr | hr
    · rcases List.mem_append.mp hr with hr | hr
      · exact htags.references r hr
      · exact hfound .agent r hr
    · exact hfound .tool r hr
  · rcases List.mem_append.mp hc with hc | hc
    · exact htags.toolCalls c hc
    · split at hc
      · obtain ⟨name, -, rfl⟩ := List.mem_map.mp hc
        exact hnumber
      · cases hc

/-- Reading lines records their numbers. -/
theorem Within.foldl {numbered : List (List Char × Nat)} (h : s.Within P)
    (hnumbered : ∀ l ∈ numbered, P l.2) : (numbered.foldl State.step s).Within P := by
  induction numbered generalizing s with
  | nil => exact h
  | cons l numbered ih =>
    obtain ⟨hl, hrest⟩ := List.forall_mem_cons.mp hnumbered
    exact ih (h.step hl l.1) hrest

end State

/-- Behind all lines of a text the numbers of its lines are recorded. -/
theorem within_readLines (text : List Char) :
    (readLines text).Within (Text.IsLineNumber text) := by
  refine State.Within.foldl ⟨by simp, by simp, by simp, by simp⟩ fun l hl => ?_
  obtain ⟨hfirst, hlast, -⟩ := List.mem_zipIdx hl
  exact ⟨hfirst, by omega⟩

/-- The numbers in the instruction of a file that can be read are those of lines of the file. -/
theorem isLineNumber_parseFile {t : FileTree} {agentName : String} {path : Path} {i : Instruction}
    {text : List Char} (h : parseFile t agentName path = .ok i)
    (htext : t.readText path path = .ok text) :
    (∀ r ∈ i.references, Text.IsLineNumber text r.line) ∧
      (∀ c ∈ i.toolCalls, Text.IsLineNumber text c.line) ∧
      ∀ n, i.parseErrorLine? = some n → Text.IsLineNumber text n := by
  have hwithin := within_readLines text
  unfold parseFile at h
  rw [htext] at h
  cases h
  refine ⟨hwithin.references, hwithin.toolCalls, fun n hn => ?_⟩
  obtain ⟨o, ho, rfl⟩ := Option.map_eq_some_iff.mp hn
  exact hwithin.opened o (List.mem_of_mem_head? ho)

end Markup

end AgentPackage
