import AgentPackage.Proofs.Instruction.Tags
import Mathlib.Data.List.Induction

/-!
# Sections of instructions

The tags of a text open and close sections. All names share one list of open sections, from the
middle of which a closing tag takes the last one of its name. Seen from one name this is a stack:
the sections of a name are those that its own tags give, whatever tags stand between them.

## Main definitions

* `Markup.TagEvent`, `Markup.events`: what the tags of a text do, in order;
* `Markup.Matching`: openings of one name, matched with closings by a stack;
* `Instruction.Matches`: the sections of an instruction are those that events give.

## Main results

* `Markup.Tagged.follows_foldl`: on the tags of one name the list of open sections is a stack;
* `Markup.Tagged.accounts_foldl`: every opening is that of one section, closed or open;
* `Markup.parse_matches`: the sections of an instruction that is read from a text.
-/

namespace AgentPackage

/-- A section as it was when it was opened. -/
def Section.opening (s : Section) : OpenSection := ⟨s.name, s.startLine⟩

namespace Markup

/-- What a tag does in a line. -/
inductive TagEvent where
  /-- It opens a section. -/
  | opens (name : String) (line : Nat)
  /-- It closes the section of its name that was opened last, if there is one. -/
  | closes (name : String) (line : Nat)
  deriving DecidableEq, Repr

namespace TagEvent

/-- The name of the section. -/
def name : TagEvent → String
  | opens name _ => name
  | closes name _ => name

/-- The line of the tag. -/
def line : TagEvent → Nat
  | opens _ line => line
  | closes _ line => line

/-- The section that is opened, if one is. -/
def opening? : TagEvent → Option OpenSection
  | opens name line => some ⟨name, line⟩
  | closes _ _ => none

/-- The line of a closing tag. -/
def closingLine? : TagEvent → Option Nat
  | opens _ _ => none
  | closes _ line => some line

end TagEvent

/-- What the tags of a line do: first the opening tag at its start, then its first closing tag. -/
def lineEvents (numbered : List Char × Nat) : List TagEvent :=
  let stripped := Text.trimChars numbered.1
  ((opening? stripped).map (.opens · numbered.2)).toList ++
    ((closing? stripped).map (.closes · numbered.2)).toList

/-- What the tags of a text do, line by line. -/
def events (text : List Char) : List TagEvent :=
  ((Text.lines text).zipIdx 1).flatMap lineEvents

/-- The events of a name. -/
def named (name : String) (es : List TagEvent) : List TagEvent :=
  es.filter fun e => e.name == name

/-- The sections that events open, in order. -/
def openings (es : List TagEvent) : List OpenSection :=
  es.filterMap TagEvent.opening?

/-- The lines of the closing tags among events, in order. -/
def closingLines (es : List TagEvent) : List Nat :=
  es.filterMap TagEvent.closingLine?

/-- The events that a line gives rise to: it opens the section with whose tag it starts, blanks at
its ends apart, and then closes that of its first closing tag. -/
def GivesRise (numbered : List Char × Nat) (es : List TagEvent) : Prop :=
  ∃ opened closed : Option String,
    (∀ name, opened = some name ↔ OpensWith (Text.trimChars numbered.1) name) ∧
    (∀ name, closed = some name ↔ ClosesFirst (Text.trimChars numbered.1) name) ∧
    es = (opened.map (.opens · numbered.2)).toList ++ (closed.map (.closes · numbered.2)).toList

theorem givesRise_lineEvents (numbered : List Char × Nat) :
    GivesRise numbered (lineEvents numbered) :=
  ⟨_, _, fun _ => opening?_eq_some, fun _ => closing?_eq_some, rfl⟩

/-- The tags of one name, matched by a stack. -/
structure Matching where
  /-- The lines of matched opening and closing tags, in the order of the closing tags. -/
  closed : List (Nat × Nat) := []
  /-- The lines of the opening tags without a match, the last one on top. -/
  pending : List Nat := []
  deriving DecidableEq, Repr

namespace Matching

/-- An opening tag is pushed, a closing tag takes the one on top. -/
def step (m : Matching) : TagEvent → Matching
  | .opens _ line => { m with pending := line :: m.pending }
  | .closes _ line =>
    match m.pending with
    | [] => m
    | start :: pending => ⟨m.closed ++ [(start, line)], pending⟩

/-- The matching of several tags. -/
def ofEvents (es : List TagEvent) : Matching :=
  es.foldl step {}

end Matching

/-- The last section of a name is taken out of the open ones. -/
theorem takeLast?_eq_some {name : String} {opened rest : List OpenSection} {o : OpenSection}
    (h : takeLast? name opened = some (o, rest)) :
    ∃ front back, opened = front ++ o :: back ∧ rest = front ++ back ∧ o.name = name ∧
      ∀ b ∈ back, b.name ≠ name := by
  unfold takeLast? at h
  obtain ⟨o', hfind, hpair⟩ := Option.map_eq_some_iff.mp h
  obtain ⟨rfl, rfl⟩ := Prod.mk.inj hpair
  obtain ⟨hname, behind, before, hreverse, hbehind⟩ := List.find?_eq_some_iff_append.mp hfind
  refine ⟨before.reverse, behind.reverse, ?_, ?_, by simpa using hname, ?_⟩
  · rw [← List.reverse_reverse opened, hreverse]
    simp
  · rw [hreverse, List.eraseP_append_right _ fun b hb => by simpa using hbehind b hb]
    simp [hname]
  · intro b hb
    simpa using hbehind b (List.mem_reverse.mp hb)

/-- No section is taken out if none of the open ones has the name. -/
theorem takeLast?_eq_none {name : String} {opened : List OpenSection} :
    takeLast? name opened = none ↔ ∀ o ∈ opened, o.name ≠ name := by
  simp [takeLast?]

/-- The sections of a state. -/
structure Tagged where
  /-- The sections that have been closed. -/
  sections : List Section := []
  /-- The sections that are open, in the order of their opening tags. -/
  opened : List OpenSection := []

/-- The sections of the state of a reading. -/
def State.tagged (s : State) : Tagged := ⟨s.sections, s.opened⟩

namespace Tagged

/-- The sections after an event. -/
def take (s : Tagged) : TagEvent → Tagged
  | .opens name line => { s with opened := s.opened ++ [⟨name, line⟩] }
  | .closes name line =>
    match takeLast? name s.opened with
    | some (o, opened) => ⟨s.sections ++ [⟨o.name, o.startLine, line⟩], opened⟩
    | none => s

end Tagged

/-- Reading a line takes the events of the line. -/
theorem tagged_step (s : State) (numbered : List Char × Nat) :
    (s.step numbered).tagged = (lineEvents numbered).foldl Tagged.take s.tagged := by
  obtain ⟨line, number⟩ := numbered
  have hopen : ∀ (s : State) (name? : Option String), (s.openSection number name?).tagged =
      ((name?.map (TagEvent.opens · number)).toList).foldl Tagged.take s.tagged := by
    intro s name?
    cases name? <;> rfl
  have hclose : ∀ (s : State) (name? : Option String), (s.closeSection number name?).tagged =
      ((name?.map (TagEvent.closes · number)).toList).foldl Tagged.take s.tagged := by
    intro s name?
    cases name? with
    | none => rfl
    | some name =>
      simp only [State.closeSection, State.tagged, Option.bind_some, Option.map_some,
        Option.toList_some, List.foldl_cons, List.foldl_nil, Tagged.take]
      cases takeLast? name s.opened <;> rfl
  rw [lineEvents, List.foldl_append, ← hopen, ← hclose]
  rfl

/-- Reading lines takes their events. -/
theorem tagged_foldl_step (numbered : List (List Char × Nat)) (s : State) :
    (numbered.foldl State.step s).tagged =
      (numbered.flatMap lineEvents).foldl Tagged.take s.tagged := by
  induction numbered generalizing s with
  | nil => rfl
  | cons l numbered ih => rw [List.foldl_cons, ih, tagged_step, List.flatMap_cons, List.foldl_append]

namespace Tagged

section OneName

/-- The sections of a name are those of a matching of its tags. -/
def Follows (s : Tagged) (name : String) (m : Matching) : Prop :=
  ((s.sections.filter fun x => x.name == name).map fun x => (x.startLine, x.endLine)) = m.closed ∧
    (s.opened.filter fun o => o.name == name).map OpenSection.startLine = m.pending.reverse

variable {s : Tagged} {name : String} {m : Matching}

/-- A tag of another name does not matter. -/
theorem Follows.take_of_ne {e : TagEvent} (h : s.Follows name m) (hne : e.name ≠ name) :
    (s.take e).Follows name m := by
  cases e with
  | opens other line =>
    have hother : (other == name) = false := beq_false_of_ne hne
    exact ⟨h.1, by simpa [take, hother] using h.2⟩
  | closes other line =>
    rw [take]
    split
    · rename_i o rest htake
      obtain ⟨front, back, hopened, rfl, hname, -⟩ := takeLast?_eq_some htake
      have ho : (o.name == name) = false := beq_false_of_ne (hname ▸ hne)
      have h2 := h.2
      rw [hopened] at h2
      exact ⟨by simpa [ho] using h.1, by simpa [ho] using h2⟩
    · exact h

/-- On a tag of the name the stack of the matching goes along with the list of open sections. -/
theorem Follows.take {e : TagEvent} (h : s.Follows name m) (heq : e.name = name) :
    (s.take e).Follows name (m.step e) := by
  subst heq
  cases e with
  | opens name line =>
    exact ⟨h.1, by simpa [Tagged.take, Matching.step, TagEvent.name] using h.2⟩
  | closes name line =>
    have h1 := h.1
    have h2 := h.2
    simp only [TagEvent.name] at h1 h2
    rw [Tagged.take, Matching.step]
    split
    · rename_i o rest htake
      obtain ⟨front, back, hopened, rfl, hname, hback⟩ := takeLast?_eq_some htake
      -- behind the section that is closed none has the name, so it is the one on top
      have hnone : (back.filter fun b => b.name == name) = [] := by
        simpa [List.filter_eq_nil_iff] using hback
      have hpending : m.pending =
          o.startLine :: ((front.filter fun o => o.name == name).map OpenSection.startLine).reverse := by
        rw [← List.reverse_reverse m.pending, ← h2, hopened]
        simp [hname, hnone]
      rw [hpending]
      refine ⟨?_, ?_⟩
      · simp [TagEvent.name, hname, ← h1]
      · simp [TagEvent.name, hnone]
    · rename_i htake
      have hnone : (s.opened.filter fun o => o.name == name) = [] := by
        simpa [List.filter_eq_nil_iff] using takeLast?_eq_none.mp htake
      have hpending : m.pending = [] := by
        rw [← List.reverse_eq_nil_iff, ← h2, hnone, List.map_nil]
      rw [hpending]
      exact ⟨h1, h2⟩

/-- On the tags of one name the list of open sections is a stack. -/
theorem follows_foldl (h : s.Follows name m) (es : List TagEvent) :
    (es.foldl Tagged.take s).Follows name ((named name es).foldl Matching.step m) := by
  induction es generalizing s m with
  | nil => exact h
  | cons e es ih =>
    by_cases he : e.name = name
    · simpa [named, he] using ih (h.take he)
    · simpa [named, he] using ih (h.take_of_ne he)

end OneName

section Accounts

/-- Every section, closed or open, has an opening of its own among some events; sections are closed
one at a time, and not before they are opened. -/
structure Accounts (es : List TagEvent) (s : Tagged) : Prop where
  /-- Every opening is that of one section. -/
  perm : (openings es).Perm (s.sections.map Section.opening ++ s.opened)
  /-- The open sections stand in the order of their openings. -/
  opened : s.opened.Sublist (openings es)
  /-- Every closed section has a closing tag of its own, and they stand in the order of these. -/
  closed : (s.sections.map Section.endLine).Sublist (closingLines es)
  /-- A section starts no later than it ends. -/
  ordered : ∀ x ∈ s.sections, x.startLine ≤ x.endLine

variable {s : Tagged} {es : List TagEvent}

/-- Accounts are kept when a tag comes that stands behind all openings. -/
theorem Accounts.take {e : TagEvent} (h : Accounts es s)
    (hlast : ∀ o ∈ openings es, o.startLine ≤ e.line) : Accounts (es ++ [e]) (s.take e) := by
  cases e with
  | opens name line =>
    have hopenings : openings (es ++ [.opens name line]) = openings es ++ [⟨name, line⟩] := by
      simp [openings, TagEvent.opening?]
    have hclosing : closingLines (es ++ [.opens name line]) = closingLines es := by
      simp [closingLines, TagEvent.closingLine?]
    refine ⟨?_, ?_, ?_, h.ordered⟩
    · rw [hopenings, Tagged.take, ← List.append_assoc]
      exact h.perm.append_right _
    · rw [hopenings]
      exact h.opened.append (List.Sublist.refl _)
    · rw [hclosing]
      exact h.closed
  | closes name line =>
    have hopenings : openings (es ++ [.closes name line]) = openings es := by
      simp [openings, TagEvent.opening?]
    have hclosing : closingLines (es ++ [.closes name line]) = closingLines es ++ [line] := by
      simp [closingLines, TagEvent.closingLine?]
    rw [Tagged.take]
    split
    · rename_i o rest htake
      obtain ⟨front, back, hopened, rfl, -, -⟩ := takeLast?_eq_some htake
      have hsub := h.opened
      have hperm := h.perm
      rw [hopened] at hsub hperm
      refine ⟨?_, ?_, ?_, ?_⟩
      · -- the section goes from the open ones to the closed ones
        rw [hopenings]
        refine hperm.trans ?_
        rw [List.map_append, List.append_assoc]
        exact List.perm_middle.append_left _
      · rw [hopenings]
        exact ((List.sublist_cons_self o back).append_left front).trans hsub
      · rw [hclosing, List.map_append]
        exact h.closed.append (List.Sublist.refl _)
      · intro x hx
        rcases List.mem_append.mp hx with hx | hx
        · exact h.ordered x hx
        · obtain rfl := List.mem_singleton.mp hx
          exact hlast o (hsub.subset (by simp))
    · refine ⟨hopenings ▸ h.perm, hopenings ▸ h.opened, ?_, h.ordered⟩
      rw [hclosing]
      exact h.closed.trans (List.sublist_append_left _ _)

/-- An opening stands in the line of its event. -/
theorem exists_of_mem_openings {o : OpenSection} (h : o ∈ openings es) :
    ∃ e ∈ es, e.line = o.startLine := by
  obtain ⟨e, he, ho⟩ := List.mem_filterMap.mp h
  cases e with
  | opens name line =>
    cases ho
    exact ⟨_, he, rfl⟩
  | closes name line => cases ho

/-- The line of a closing tag is that of its event. -/
theorem exists_of_mem_closingLines {line : Nat} (h : line ∈ closingLines es) :
    ∃ e ∈ es, e.line = line := by
  obtain ⟨e, he, hline⟩ := List.mem_filterMap.mp h
  cases e with
  | opens name line => cases hline
  | closes name line => exact ⟨_, he, Option.some.inj hline⟩

/-- Every opening is that of one section, whatever tags there are, as long as no tag stands in a
line before that of the tag in front of it. -/
theorem accounts_foldl (h : es.Pairwise fun a b => a.line ≤ b.line) :
    Accounts es (es.foldl Tagged.take {}) := by
  induction es using List.reverseRecOn with
  | nil => exact ⟨.refl _, .refl _, .refl _, List.forall_mem_nil _⟩
  | append_singleton es e ih =>
    obtain ⟨hes, -, hlast⟩ := List.pairwise_append.mp h
    rw [List.foldl_append]
    refine (ih hes).take fun o ho => ?_
    obtain ⟨e', he', hline⟩ := exists_of_mem_openings ho
    exact hline ▸ hlast e' he' e (List.mem_singleton_self e)

end Accounts

end Tagged

section Order

/-- A tag stands in an earlier line than another one, or it is the opening tag at the start of a
line that the other one closes something in. -/
def TagEvent.Before (a b : TagEvent) : Prop :=
  a.line < b.line ∨ a.line = b.line ∧ a.opening?.isSome = true ∧ b.closingLine?.isSome = true

theorem TagEvent.Before.line_le {a b : TagEvent} (h : a.Before b) : a.line ≤ b.line := by
  rcases h with h | ⟨h, -⟩
  · exact Nat.le_of_lt h
  · exact Nat.le_of_eq h

/-- The events of a line stand in the line. -/
theorem line_of_mem_lineEvents {numbered : List Char × Nat} {e : TagEvent}
    (h : e ∈ lineEvents numbered) : e.line = numbered.2 := by
  rw [lineEvents, List.mem_append, Option.mem_toList, Option.mem_toList] at h
  rcases h with h | h
  · obtain ⟨_, -, rfl⟩ := Option.map_eq_some_iff.mp h
    rfl
  · obtain ⟨_, -, rfl⟩ := Option.map_eq_some_iff.mp h
    rfl

/-- A line is opened before it is closed. -/
theorem pairwise_lineEvents (numbered : List Char × Nat) :
    (lineEvents numbered).Pairwise TagEvent.Before := by
  simp only [lineEvents]
  cases opening? (Text.trimChars numbered.1) <;> cases closing? (Text.trimChars numbered.1) <;>
    simp [TagEvent.Before, TagEvent.line, TagEvent.opening?, TagEvent.closingLine?]

/-- Lines are numbered in their order. -/
theorem pairwise_zipIdx {α : Type} (ls : List α) (n : Nat) :
    (ls.zipIdx n).Pairwise fun a b => a.2 < b.2 := by
  rw [← List.pairwise_map (f := Prod.snd), List.zipIdx_map_snd]
  exact List.pairwise_lt_range'

/-- The events of lines are in order if the lines are. -/
theorem pairwise_flatMap_lineEvents {numbered : List (List Char × Nat)}
    (h : numbered.Pairwise fun a b => a.2 < b.2) :
    (numbered.flatMap lineEvents).Pairwise TagEvent.Before := by
  refine List.pairwise_flatMap.mpr ⟨fun _ _ => pairwise_lineEvents _, ?_⟩
  refine h.imp fun hlt a ha b hb => .inl ?_
  rwa [line_of_mem_lineEvents ha, line_of_mem_lineEvents hb]

/-- The events of a text are in order. -/
theorem pairwise_events (text : List Char) : (events text).Pairwise TagEvent.Before :=
  pairwise_flatMap_lineEvents (pairwise_zipIdx _ _)

/-- The events of a text stand in its lines. -/
theorem line_of_mem_events {text : List Char} {e : TagEvent} (h : e ∈ events text) :
    1 ≤ e.line ∧ e.line ≤ (Text.lines text).length := by
  obtain ⟨⟨line, number⟩, hmem, he⟩ := List.mem_flatMap.mp h
  rw [line_of_mem_lineEvents he]
  have hle := List.le_snd_of_mem_zipIdx hmem
  have hlt := List.snd_lt_add_of_mem_zipIdx hmem
  omega

/-- Events in order open no two sections in one line. -/
theorem openings_pairwise {es : List TagEvent} (h : es.Pairwise TagEvent.Before) :
    (openings es).Pairwise fun a b => a.startLine < b.startLine := by
  refine List.pairwise_filterMap.mpr (h.imp fun hbefore x hx y hy => ?_)
  rename_i a b
  cases a <;> cases b <;> cases hx <;> cases hy
  exact hbefore.resolve_right fun h => by simp [TagEvent.closingLine?] at h

/-- No two sections are opened in one line. -/
theorem pairwise_openings (text : List Char) :
    (openings (events text)).Pairwise fun a b => a.startLine < b.startLine :=
  openings_pairwise (pairwise_events text)

/-- No two closing tags stand in one line. -/
theorem pairwise_closingLines (text : List Char) :
    (closingLines (events text)).Pairwise (· < ·) := by
  refine List.pairwise_filterMap.mpr ((pairwise_events text).imp fun hbefore x hx y hy => ?_)
  rename_i a b
  cases a <;> cases b <;> cases hx <;> cases hy
  exact hbefore.resolve_right fun h => by simp [TagEvent.opening?] at h

end Order

end Markup

open Markup

/-- The sections of an instruction are those that the tags of a text with some lines give. -/
structure Instruction.Matches (es : List TagEvent) (lineCount : Nat) (i : Instruction) : Prop where
  /-- The closed sections of a name are those that a stack matches. -/
  closed : ∀ name, ((i.sections.filter fun s => s.name == name).map fun s =>
    (s.startLine, s.endLine)) = (Matching.ofEvents (named name es)).closed
  /-- The open sections of a name are those that are left on the stack. -/
  unclosed : ∀ name, ((i.unclosed.filter fun o => o.name == name).map OpenSection.startLine) =
    (Matching.ofEvents (named name es)).pending.reverse
  /-- Every opening is that of one section, closed or open. -/
  accounted : (openings es).Perm (i.sections.map Section.opening ++ i.unclosed)
  /-- No line opens two sections. -/
  startLines : (i.sections.map Section.startLine ++ i.unclosed.map OpenSection.startLine).Nodup
  /-- The sections stand in the order of their last lines, no two of which are the same. -/
  endLines : (i.sections.map Section.endLine).Pairwise (· < ·)
  /-- The lines of a section are lines of the text. -/
  within : ∀ s ∈ i.sections, 1 ≤ s.startLine ∧ s.startLine ≤ s.endLine ∧ s.endLine ≤ lineCount
  /-- The open sections stand in the order of their lines. -/
  inOrder : i.unclosed.Pairwise fun a b => a.startLine < b.startLine
  /-- There is an error exactly if an opening is left. -/
  hasError : i.parseError?.isSome = true ↔
    ∃ name, (Matching.ofEvents (named name es)).pending ≠ []
  /-- The error tells the sections that are left open, with their lines. -/
  error : ∀ message, i.parseError? = some message → message =
    "Unclosed section(s): " ++ ", ".intercalate
      (i.unclosed.map fun o => "<" ++ o.name ++ "> at line " ++ toString o.startLine)
  /-- The line of the error is the first one that opens a section that is left open. -/
  errorLine : i.parseErrorLine? = (i.unclosed.map OpenSection.startLine).min?

/-- An instruction that is read from a text has no error exactly if no section is left open. -/
theorem Markup.parseError?_eq_none {agentName : String} {path : Path} {text : List Char} :
    (parse agentName path text).parseError? = none ↔ (readLines text).opened = [] := by
  simp only [parse, Instruction.parseError?]
  cases (readLines text).opened <;> simp

/-- The first of increasing numbers is the least one. -/
theorem Markup.head?_eq_min? {ns : List Nat} (h : ns.Pairwise (· < ·)) : ns.head? = ns.min? := by
  cases ns with
  | nil => rfl
  | cons n ns =>
    refine (List.min?_eq_some_iff.mpr ⟨List.mem_cons_self, fun m hm => ?_⟩).symm
    rcases List.mem_cons.mp hm with rfl | hm
    · exact Nat.le_refl _
    · exact Nat.le_of_lt (List.rel_of_pairwise_cons h hm)

/-- An instruction that is read from a text has the sections that the tags of the text give. These
are, in each line, the opening tag that the line starts with and then its first closing tag. The
tags of one name are matched by a stack, whatever tags of other names stand between them; no
opening is lost, and those that are left are reported as an error. -/
theorem Markup.parse_matches (agentName : String) (path : Path) (text : List Char) :
    (∀ numbered ∈ (Text.lines text).zipIdx 1, GivesRise numbered (lineEvents numbered)) ∧
      (parse agentName path text).Matches (events text) (Text.lines text).length := by
  refine ⟨fun numbered _ => givesRise_lineEvents numbered, ?_⟩
  have htagged : (readLines text).tagged = (events text).foldl Tagged.take {} :=
    tagged_foldl_step _ {}
  have hfollows : ∀ name, (readLines text).tagged.Follows name
      (Matching.ofEvents (named name (events text))) := fun name =>
    htagged ▸ Tagged.follows_foldl ⟨rfl, rfl⟩ (events text)
  have haccounts : Tagged.Accounts (events text) (readLines text).tagged :=
    htagged ▸ Tagged.accounts_foldl ((pairwise_events text).imp TagEvent.Before.line_le)
  have hlines : ((openings (events text)).map OpenSection.startLine).Pairwise (· < ·) :=
    List.pairwise_map.mpr (pairwise_openings text)
  have hunclosed : (readLines text).opened.Pairwise fun a b => a.startLine < b.startLine :=
    (pairwise_openings text).sublist haccounts.opened
  refine ⟨fun name => (hfollows name).1, fun name => (hfollows name).2, haccounts.perm, ?_, ?_, ?_,
    hunclosed, ?_, ?_, ?_⟩
  · -- the lines of all openings differ
    have hperm := haccounts.perm.map OpenSection.startLine
    rw [List.map_append, List.map_map] at hperm
    exact hperm.nodup (hlines.imp Nat.ne_of_lt)
  · exact (pairwise_closingLines text).sublist haccounts.closed
  · intro s hs
    have hopening : s.opening ∈ openings (events text) :=
      haccounts.perm.mem_iff.mpr (List.mem_append_left _ (List.mem_map_of_mem hs))
    obtain ⟨e, he, hstart⟩ := Tagged.exists_of_mem_openings hopening
    have hstart : e.line = s.startLine := hstart
    obtain ⟨e', he', hend⟩ := Tagged.exists_of_mem_closingLines
      (haccounts.closed.subset (List.mem_map_of_mem hs))
    exact ⟨hstart ▸ (line_of_mem_events he).1, haccounts.ordered s hs,
      hend ▸ (line_of_mem_events he').2⟩
  · -- an opening is left under some name if one is left at all
    rw [Option.isSome_iff_ne_none, ne_eq, parseError?_eq_none]
    constructor
    · intro hne
      obtain ⟨o, ho⟩ := List.exists_mem_of_ne_nil _ hne
      refine ⟨o.name, fun hpending => ?_⟩
      have hnil := (hfollows o.name).2
      rw [hpending, List.reverse_nil, List.map_eq_nil_iff, List.filter_eq_nil_iff] at hnil
      exact hnil o ho (beq_self_eq_true o.name)
    · rintro ⟨name, hpending⟩ hnil
      have hlist := (hfollows name).2
      rw [show (readLines text).tagged.opened = [] from hnil] at hlist
      exact hpending (List.reverse_eq_nil_iff.mp hlist.symm)
  · intro message hmessage
    simp only [parse, Instruction.parseError?] at hmessage
    split at hmessage
    · cases ‹none = some _›
    · cases hmessage
    · cases hmessage
      rfl
  · rw [Instruction.parseErrorLine?, ← List.head?_map]
    exact head?_eq_min? (List.pairwise_map.mpr hunclosed)

/-- A closing tag takes the last opening of its own name out of the middle of the open ones. -/
example : events "<role>\n<persona>\n<role>\n</role></persona>\n</role>\n</role>".toList =
      [.opens "role" 1, .opens "persona" 2, .opens "role" 3, .closes "role" 4, .closes "role" 5,
        .closes "role" 6] ∧
    (parse "agent" ⟨.root, []⟩
        "<role>\n<persona>\n<role>\n</role></persona>\n</role>\n</role>".toList).sections =
      [⟨"role", 3, 4⟩, ⟨"role", 1, 5⟩] := by
  decide +kernel

end AgentPackage
