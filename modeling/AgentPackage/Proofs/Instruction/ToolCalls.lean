import AgentPackage.Proofs.Instruction.Sections

/-!
# Calls of tools in examples

Whether the calls of a line count is settled once for the line, behind its tags. So they count
exactly if an examples section goes on behind the line, wherever in the line they stand: all calls
of a line that opens examples, and none of a line that closes the last ones, not even those in front
of the closing tag.

## Main definitions

* `Markup.Tagged.GoesOn`: a section of a name goes on behind a line;
* `Markup.likelyCalls`: the calls in a line that are likely those of tools.

## Main results

* `Markup.Tagged.goesOn_foldl_take`: later tags do not change where sections go on;
* `Markup.toolCalls_parse`: the calls of tools that are read from a text;
* `Markup.toolCalls_parse_inline`: examples in one line have no calls.
-/

namespace AgentPackage

namespace Markup

/-- The calls in a line that are likely those of tools, in order. -/
def likelyCalls (numbered : List Char × Nat) : List ToolCall :=
  ((calls numbered.1).filter isLikelyToolCall).map fun name => ⟨name, numbered.2⟩

namespace Tagged

/-- A section of a name goes on behind a line: it starts in the line or before it, and if it is
closed, then in a later line. -/
def GoesOn (s : Tagged) (name : String) (line : Nat) : Prop :=
  (∃ x ∈ s.sections, x.name = name ∧ x.startLine ≤ line ∧ line < x.endLine) ∨
    ∃ o ∈ s.opened, o.name = name ∧ o.startLine ≤ line

instance (s : Tagged) (name : String) (line : Nat) : Decidable (s.GoesOn name line) :=
  inferInstanceAs (Decidable (_ ∨ _))

/-- A line is one of those of a section of a name. -/
def Spans (s : Tagged) (name : String) (line : Nat) : Prop :=
  (∃ x ∈ s.sections, x.name = name ∧ x.startLine ≤ line ∧ line ≤ x.endLine) ∨
    ∃ o ∈ s.opened, o.name = name ∧ o.startLine ≤ line

variable {s : Tagged} {name : String} {line : Nat}

/-- A line behind which a section goes on is one of its lines. -/
theorem GoesOn.spans (h : s.GoesOn name line) : s.Spans name line :=
  h.imp_left fun ⟨x, hx, hname, hstart, hend⟩ => ⟨x, hx, hname, hstart, Nat.le_of_lt hend⟩

/-- A tag does not change where sections go on in front of it. -/
theorem goesOn_take {e : TagEvent} (h : line < e.line) :
    (s.take e).GoesOn name line ↔ s.GoesOn name line := by
  cases e with
  | opens other number =>
    have h : line < number := h
    simp only [GoesOn, take, List.mem_append, List.mem_singleton]
    refine or_congr_right ⟨?_, ?_⟩
    · rintro ⟨o, ho | rfl, hname, hstart⟩
      · exact ⟨o, ho, hname, hstart⟩
      · exact absurd hstart (Nat.not_le_of_lt h)
    · rintro ⟨o, ho, hgoes⟩
      exact ⟨o, .inl ho, hgoes⟩
  | closes other number =>
    have h : line < number := h
    rw [take]
    split
    · -- the section that is closed went on, as it was open, and still does, as it ends behind
      rename_i o rest htake
      obtain ⟨front, back, hopened, rfl, -, -⟩ := takeLast?_eq_some htake
      simp only [GoesOn, hopened, List.mem_append, List.mem_cons, List.not_mem_nil, or_false]
      constructor
      · rintro (⟨x, hx | rfl, hname, hstart, hend⟩ | ⟨o', ho', hgoes⟩)
        · exact .inl ⟨x, hx, hname, hstart, hend⟩
        · exact .inr ⟨o, .inr (.inl rfl), hname, hstart⟩
        · exact .inr ⟨o', ho'.imp_right .inr, hgoes⟩
      · rintro (⟨x, hx, hgoes⟩ | ⟨o', ho' | rfl | ho', hname, hstart⟩)
        · exact .inl ⟨x, .inl hx, hgoes⟩
        · exact .inr ⟨o', .inl ho', hname, hstart⟩
        · exact .inl ⟨_, .inr rfl, hname, hstart, h⟩
        · exact .inr ⟨o', .inr ho', hname, hstart⟩
    · exact Iff.rfl

/-- Later tags do not change where sections go on. -/
theorem goesOn_foldl_take {es : List TagEvent} (h : ∀ e ∈ es, line < e.line) :
    (es.foldl take s).GoesOn name line ↔ s.GoesOn name line := by
  induction es generalizing s with
  | nil => exact Iff.rfl
  | cons e es ih =>
    obtain ⟨he, hes⟩ := List.forall_mem_cons.mp h
    rw [List.foldl_cons, ih hes, goesOn_take he]

/-- Behind all tags the sections that go on are the open ones. -/
theorem Accounts.goesOn_iff {es : List TagEvent} (h : Accounts es s)
    (hlast : ∀ e ∈ es, e.line ≤ line) :
    s.GoesOn name line ↔ ∃ o ∈ s.opened, o.name = name := by
  constructor
  · rintro (⟨x, hx, -, -, hend⟩ | ⟨o, ho, hname, -⟩)
    · obtain ⟨e, he, hline⟩ :=
        exists_of_mem_closingLines (h.closed.subset (List.mem_map_of_mem hx))
      exact absurd (hlast e he) (Nat.not_le_of_lt (hline ▸ hend))
    · exact ⟨o, ho, hname⟩
  · rintro ⟨o, ho, hname⟩
    obtain ⟨e, he, hline⟩ := exists_of_mem_openings (h.opened.subset ho)
    exact .inr ⟨o, ho, hname, hline ▸ hlast e he⟩

end Tagged

/-- Tags do not give calls of tools. -/
theorem toolCalls_closeSection_openSection (s : State) (number : Nat) (o? c? : Option String) :
    ((s.openSection number o?).closeSection number c?).toolCalls = s.toolCalls := by
  have hclose : ∀ s : State, (s.closeSection number c?).toolCalls = s.toolCalls := by
    intro s
    rw [State.closeSection]
    split <;> rfl
  rw [hclose]
  cases o? <;> rfl

/-- Reading a line adds its likely calls if an examples section is open behind it. -/
theorem toolCalls_step (s : State) (numbered : List Char × Nat) :
    (s.step numbered).toolCalls =
      s.toolCalls ++ if (s.step numbered).inExamples then likelyCalls numbered else [] := by
  simp only [State.step, toolCalls_closeSection_openSection]
  rfl

/-- The calls of tools in lines are the likely ones in those lines behind which an examples section
goes on. -/
theorem toolCalls_foldl_step {numbered : List (List Char × Nat)}
    (h : numbered.Pairwise fun a b => a.2 < b.2) :
    (numbered.foldl State.step {}).toolCalls = numbered.flatMap fun l =>
      if (numbered.foldl State.step {}).tagged.GoesOn examplesName l.2 then likelyCalls l
      else [] := by
  -- line by line: what counts in a line is settled by the tags up to its end
  induction numbered using List.reverseRecOn with
  | nil => rfl
  | append_singleton numbered l ih =>
    obtain ⟨hnumbered, -, hlast⟩ := List.pairwise_append.mp h
    have hlast : ∀ a ∈ numbered, a.2 < l.2 := fun a ha => hlast a ha l (List.mem_singleton_self l)
    have haccounts : Tagged.Accounts ((numbered ++ [l]).flatMap lineEvents)
        ((numbered ++ [l]).foldl State.step {}).tagged := by
      rw [tagged_foldl_step]
      exact Tagged.accounts_foldl ((pairwise_flatMap_lineEvents h).imp TagEvent.Before.line_le)
    rw [List.foldl_append, List.foldl_cons, List.foldl_nil] at haccounts ⊢
    rw [toolCalls_step, ih hnumbered, List.flatMap_append]
    congr 1
    · -- the tags of the new line stand behind those in front
      refine List.flatMap_congr fun a ha => ?_
      have hgoes : ((numbered.foldl State.step {}).step l).tagged.GoesOn examplesName a.2 ↔
          (numbered.foldl State.step {}).tagged.GoesOn examplesName a.2 := by
        rw [tagged_step]
        exact Tagged.goesOn_foldl_take fun e he => line_of_mem_lineEvents he ▸ hlast a ha
      simp only [hgoes]
    · -- no tag stands behind the new line, so what goes on behind it is what is open
      have hgoes : ((numbered.foldl State.step {}).step l).inExamples = true ↔
          ((numbered.foldl State.step {}).step l).tagged.GoesOn examplesName l.2 := by
        rw [haccounts.goesOn_iff, State.inExamples, List.any_eq_true]
        · simp only [beq_iff_eq, State.tagged]
        · intro e he
          obtain ⟨a, ha, hea⟩ := List.mem_flatMap.mp he
          rw [line_of_mem_lineEvents hea]
          rcases List.mem_append.mp ha with ha | ha
          · exact Nat.le_of_lt (hlast a ha)
          · exact Nat.le_of_eq (congrArg Prod.snd (List.mem_singleton.mp ha))
      simp only [List.flatMap_cons, List.flatMap_nil, List.append_nil, hgoes]

end Markup

/-- The sections of an instruction. -/
def Instruction.tagged (i : Instruction) : Markup.Tagged := ⟨i.sections, i.unclosed⟩

/-- The calls of tools that are read from a text are, line by line, the likely ones in the lines
behind which an examples section goes on. So none stands outside of the lines of all examples
sections, and in their lines one is left out only if no examples section goes on behind its line. -/
theorem Markup.toolCalls_parse (agentName : String) (path : Path) (text : List Char) :
    let i := parse agentName path text
    (i.toolCalls = ((Text.lines text).zipIdx 1).flatMap fun numbered =>
      if i.tagged.GoesOn examplesName numbered.2 then likelyCalls numbered else []) ∧
    ∀ c ∈ i.toolCalls, i.tagged.Spans examplesName c.line := by
  intro i
  have htoolCalls : i.toolCalls = ((Text.lines text).zipIdx 1).flatMap fun numbered =>
      if i.tagged.GoesOn examplesName numbered.2 then likelyCalls numbered else [] :=
    toolCalls_foldl_step (pairwise_zipIdx _ _)
  refine ⟨htoolCalls, fun c hc => ?_⟩
  rw [htoolCalls] at hc
  obtain ⟨numbered, -, hc⟩ := List.mem_flatMap.mp hc
  split at hc
  · rename_i hgoes
    obtain ⟨name, -, rfl⟩ := List.mem_map.mp hc
    exact hgoes.spans
  · cases hc

/-- The call in front of a closing tag is left out, though it is likely that of a tool and stands in
an examples section. -/
theorem Markup.toolCalls_parse_inline :
    let text := "<examples>find_branch()</examples>".toList
    let i := parse "agent" ⟨.root, []⟩ text
    i.sections = [⟨"examples", 1, 1⟩] ∧ likelyCalls (text, 1) = [⟨"find_branch", 1⟩] ∧
      i.toolCalls = [] := by
  decide +kernel

end AgentPackage
