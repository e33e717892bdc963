import AgentPackage.Proofs.Instruction.Sections
import Mathlib.Data.List.Nodup
import Mathlib.Data.List.Perm.Subperm

/-!
# Pairs of tags

When the sections of a text are all closed. Each opening tag needs a closing tag of its own behind
it; a line is read by its first closing tag alone, so the tags that count are those that come first
in their lines. Where every line holds one closing tag at most, these are all there are.

## Main definitions

* `Markup.OpensAt`, `Markup.ClosesAt`, `Markup.ClosesFirstAt`: where tags stand in a text;
* `Markup.Pairs`: opening tags are paired with closing tags behind them.

## Main results

* `Markup.Matching.exists_suffix`: what is left on the stack is too much in some last part of a text;
* `Markup.exists_pairs_of_opened_eq_nil`: closed sections pair the tags;
* `Markup.parseError?_parse_eq_none_iff`: a text has no error exactly if its tags can be paired.
-/

namespace AgentPackage.Markup

/-- A line of a text starts with an opening tag, blanks apart. -/
def OpensAt (text : List Char) (line : ℕ) (name : String) : Prop :=
  ∃ l, (l, line) ∈ (Text.lines text).zipIdx 1 ∧ OpensWith (Text.trimChars l) name

/-- A closing tag stands in a line of a text, with so many characters in front of it, blanks at the
start of the line not counted. -/
def ClosesAt (text : List Char) (line offset : ℕ) (name : String) : Prop :=
  ∃ l, (l, line) ∈ (Text.lines text).zipIdx 1 ∧ ClosesWith ((Text.trimChars l).drop offset) name

/-- A closing tag is the first one of its line. -/
def ClosesFirstAt (text : List Char) (line offset : ℕ) (name : String) : Prop :=
  ClosesAt text line offset name ∧
    ∀ earlier < offset, ∀ other, ¬ ClosesAt text line earlier other

/-- Each opening tag is paired with a closing tag of its own, among those that `closes` tells: one
with its name in its line or in a later one. An opening tag is at the start of its line, so all
closing tags of the line stand behind it. -/
structure Pairs (text : List Char) (closes : ℕ → ℕ → String → Prop) (partner : ℕ → ℕ × ℕ) :
    Prop where
  /-- The partner of an opening tag is a closing tag with its name. -/
  closes : ∀ line name, OpensAt text line name → closes (partner line).1 (partner line).2 name
  /-- The partner stands behind the opening tag. -/
  behind : ∀ line name, OpensAt text line name → line ≤ (partner line).1
  /-- No two opening tags have the same partner. -/
  injective : ∀ line name line' name', OpensAt text line name → OpensAt text line' name' →
    partner line = partner line' → line = line'

section Places

variable {text : List Char} {line : ℕ} {name : String}

/-- Lines of the same number are the same. -/
theorem line_unique {l l' : List Char} (h : (l, line) ∈ (Text.lines text).zipIdx 1)
    (h' : (l', line) ∈ (Text.lines text).zipIdx 1) : l = l' := by
  rw [List.mk_mem_zipIdx_iff_le_and_getElem?_sub] at h h'
  exact Option.some.inj (h.2.symm.trans h'.2)

/-- The events of a text are those of the tags at the start of its lines and of the first closing
tags. -/
theorem mem_events {text : List Char} {e : TagEvent} :
    e ∈ events text ↔ ∃ l, (l, e.line) ∈ (Text.lines text).zipIdx 1 ∧
      match e with
      | .opens name _ => OpensWith (Text.trimChars l) name
      | .closes name _ => ClosesFirst (Text.trimChars l) name := by
  unfold events
  rw [List.mem_flatMap]
  constructor
  · rintro ⟨⟨l, number⟩, hl, he⟩
    have hline := line_of_mem_lineEvents he
    refine ⟨l, hline ▸ hl, ?_⟩
    rw [lineEvents, List.mem_append, Option.mem_toList, Option.mem_toList] at he
    rcases he with he | he
    · obtain ⟨name, hname, rfl⟩ := Option.map_eq_some_iff.mp he
      exact opening?_eq_some.mp hname
    · obtain ⟨name, hname, rfl⟩ := Option.map_eq_some_iff.mp he
      exact closing?_eq_some.mp hname
  · rintro ⟨l, hl, he⟩
    refine ⟨(l, e.line), hl, ?_⟩
    rw [lineEvents, List.mem_append, Option.mem_toList, Option.mem_toList]
    cases e with
    | opens name line => exact .inl (Option.map_eq_some_iff.mpr ⟨name, opening?_eq_some.mpr he, rfl⟩)
    | closes name line =>
      exact .inr (Option.map_eq_some_iff.mpr ⟨name, closing?_eq_some.mpr he, rfl⟩)

/-- A text is read by the opening tags at the start of its lines. -/
theorem opens_mem_events : .opens name line ∈ events text ↔ OpensAt text line name :=
  mem_events

/-- A text is read by the first closing tags of its lines. -/
theorem closes_mem_events :
    .closes name line ∈ events text ↔ ∃ offset, ClosesFirstAt text line offset name := by
  rw [mem_events]
  constructor
  · rintro ⟨l, hl, before, after, hcs, hafter, hbefore⟩
    refine ⟨before.length, ⟨l, hl, ?_⟩, ?_⟩
    · rw [hcs, List.drop_left]
      exact hafter
    · rintro earlier hlt other ⟨l', hl', hcloses⟩
      exact hbefore earlier hlt other (line_unique hl hl' ▸ hcloses)
  · rintro ⟨offset, ⟨l, hl, hcloses⟩, hfirst⟩
    refine ⟨l, hl, (Text.trimChars l).take offset, (Text.trimChars l).drop offset,
      (List.take_append_drop _ _).symm, hcloses, fun i hi other hother => ?_⟩
    exact hfirst i (Nat.lt_of_lt_of_le hi (List.length_take_le _ _)) other ⟨l, hl, hother⟩

/-- A line starts with one opening tag. -/
theorem OpensAt.unique {other : String} (h : OpensAt text line name)
    (h' : OpensAt text line other) : name = other := by
  obtain ⟨l, hl, hopens⟩ := h
  obtain ⟨l', hl', hopens'⟩ := h'
  rw [line_unique hl' hl] at hopens'
  exact Option.some.inj ((opening?_eq_some.mpr hopens).symm.trans (opening?_eq_some.mpr hopens'))

/-- A line has one first closing tag. -/
theorem ClosesFirstAt.offset_unique {offset offset' : ℕ} {other : String}
    (h : ClosesFirstAt text line offset name) (h' : ClosesFirstAt text line offset' other) :
    offset = offset' := by
  rcases Nat.lt_trichotomy offset offset' with hlt | heq | hlt
  · exact absurd h.1 (h'.2 offset hlt name)
  · exact heq
  · exact absurd h'.1 (h.2 offset' hlt other)

end Places

namespace Matching

/-- What is left on the stack is what the tags of a last part of the text open beyond what they
close, or all tags do with what was on the stack before. -/
theorem length_pending (m : Matching) (es : List TagEvent) :
    (es.foldl step m).pending.length + (closingLines es).length =
        m.pending.length + (openings es).length ∨
      ∃ t, t <:+ es ∧
        (es.foldl step m).pending.length + (closingLines t).length = (openings t).length := by
  induction es generalizing m with
  | nil => exact .inl rfl
  | cons e es ih =>
    have hlater : ∀ {t : List TagEvent}, t <:+ es → t <:+ e :: es := fun ht =>
      ht.trans (List.suffix_cons e es)
    rcases ih (m.step e) with hall | ⟨t, ht, hlength⟩
    · cases e with
      | opens name line =>
        refine .inl ?_
        simp only [step, List.length_cons] at hall
        simp only [List.foldl_cons, step, openings, closingLines, List.filterMap_cons,
          TagEvent.opening?, TagEvent.closingLine?, List.length_cons] at hall ⊢
        omega
      | closes name line =>
        cases hpending : m.pending with
        | nil =>
          -- a closing tag that takes nothing leaves the rest to what comes behind it
          have hstep : m.step (.closes name line) = m := by simp only [step, hpending]
          rw [hstep, hpending, List.length_nil, Nat.zero_add] at hall
          refine .inr ⟨es, List.suffix_cons _ es, ?_⟩
          rw [List.foldl_cons, hstep]
          exact hall
        | cons start pending =>
          refine .inl ?_
          simp only [step, hpending] at hall
          simp only [List.foldl_cons, step, hpending, openings, closingLines, List.filterMap_cons,
            TagEvent.opening?, TagEvent.closingLine?, List.length_cons] at hall ⊢
          omega
    · exact .inr ⟨t, hlater ht, hlength⟩

/-- What is left on the stack is what the tags of some last part of the text open beyond what they
close. -/
theorem exists_suffix (es : List TagEvent) :
    ∃ t, t <:+ es ∧
      (ofEvents es).pending.length + (closingLines t).length = (openings t).length := by
  rcases length_pending {} es with hall | hlast
  · exact ⟨es, List.suffix_refl es, hall.trans (Nat.zero_add _)⟩
  · exact hlast

/-- No opening is left on the stack if each has a closing tag of its own behind it. -/
theorem pending_eq_nil {es : List TagEvent} (hes : es.Pairwise TagEvent.Before) (partner : ℕ → ℕ)
    (hcloses : ∀ o ∈ openings es, partner o.startLine ∈ closingLines es)
    (hbehind : ∀ o ∈ openings es, o.startLine ≤ partner o.startLine)
    (hinjective : ∀ o ∈ openings es, ∀ o' ∈ openings es,
      partner o.startLine = partner o'.startLine → o.startLine = o'.startLine) :
    (ofEvents es).pending = [] := by
  obtain ⟨t, ⟨front, hsplit⟩, hlength⟩ := exists_suffix es
  subst hsplit
  obtain ⟨-, ht, hfront⟩ := List.pairwise_append.mp hes
  have hopenings : ∀ o ∈ openings t, o ∈ openings (front ++ t) := by
    intro o ho
    rw [openings, List.filterMap_append]
    exact List.mem_append_right _ ho
  -- the partners of what the last part opens stand in the last part, as they are behind it
  have hpartners : ((openings t).map fun o => partner o.startLine) ⊆ closingLines t := by
    intro line hline
    obtain ⟨o, ho, rfl⟩ := List.mem_map.mp hline
    have hmem := hcloses o (hopenings o ho)
    rw [closingLines, List.filterMap_append] at hmem
    refine (List.mem_append.mp hmem).resolve_left fun hmem => ?_
    obtain ⟨e, he, hline⟩ := List.mem_filterMap.mp hmem
    obtain ⟨e', he', hopening⟩ := List.mem_filterMap.mp ho
    have hbefore := hfront e he e' he'
    cases e with
    | opens name line => cases hline
    | closes name line =>
      cases e' with
      | closes name' line' => cases hopening
      | opens name' line' =>
        cases hline
        cases hopening
        have hle := hbehind _ (hopenings _ ho)
        rcases hbefore with hlt | ⟨-, hnone, -⟩
        · exact absurd hlt (Nat.not_lt.mpr hle)
        · cases hnone
  have hnodup : ((openings t).map fun o => partner o.startLine).Nodup := by
    refine List.pairwise_map.mpr ((openings_pairwise ht).imp_of_mem fun ho ho' hlt heq => ?_)
    exact Nat.ne_of_lt hlt (hinjective _ (hopenings _ ho) _ (hopenings _ ho') heq)
  have hle := (List.subperm_of_subset hnodup hpartners).length_le
  rw [List.length_map] at hle
  exact List.length_eq_zero_iff.mp (by omega)

end Matching

section Closed

/-- A closed section has a closing tag of its name in its last line. -/
theorem closes_mem_of_mem_sections {es : List TagEvent} {s : Section}
    (h : s ∈ (es.foldl Tagged.take {}).sections) : .closes s.name s.endLine ∈ es := by
  induction es using List.reverseRecOn with
  | nil => cases h
  | append_singleton es e ih =>
    rw [List.foldl_append, List.foldl_cons, List.foldl_nil] at h
    cases e with
    | opens name line => exact List.mem_append_left _ (ih h)
    | closes name line =>
      rw [Tagged.take] at h
      split at h
      · rename_i o rest htake
        obtain ⟨-, -, -, -, hname, -⟩ := takeLast?_eq_some htake
        rcases List.mem_append.mp h with h | h
        · exact List.mem_append_left _ (ih h)
        · obtain rfl := List.mem_singleton.mp h
          rw [hname]
          exact List.mem_append_right _ (List.mem_singleton_self _)
      · exact List.mem_append_left _ (ih h)

variable {text : List Char}

/-- The sections of a text are those that its events give. -/
theorem tagged_readLines (text : List Char) :
    (readLines text).tagged = (events text).foldl Tagged.take {} :=
  tagged_foldl_step _ {}

/-- Every opening of a text is that of one section. -/
theorem accounts_readLines (text : List Char) :
    Tagged.Accounts (events text) (readLines text).tagged :=
  tagged_readLines text ▸ Tagged.accounts_foldl ((pairwise_events text).imp TagEvent.Before.line_le)

/-- The section that an opening tag opens is closed by a first closing tag, if none is left open. -/
theorem exists_section_of_opensAt (h : (readLines text).opened = []) {line : ℕ} {name : String}
    (hopens : OpensAt text line name) :
    ∃ s ∈ (readLines text).sections, s.startLine = line ∧ line ≤ s.endLine ∧
      ∃ offset, ClosesFirstAt text s.endLine offset name := by
  have haccounts := accounts_readLines text
  have hperm := haccounts.perm
  rw [show (readLines text).tagged.opened = [] from h, List.append_nil] at hperm
  have hopening : ⟨name, line⟩ ∈ openings (events text) :=
    List.mem_filterMap.mpr ⟨_, opens_mem_events.mpr hopens, rfl⟩
  obtain ⟨s, hs, heq⟩ := List.mem_map.mp (hperm.mem_iff.mp hopening)
  obtain ⟨rfl, rfl⟩ := OpenSection.mk.inj heq
  refine ⟨s, hs, rfl, haccounts.ordered s hs, ?_⟩
  rw [tagged_readLines] at hs
  exact closes_mem_events.mp (closes_mem_of_mem_sections hs)

/-- Where all sections are closed each opening tag is paired with the tag that closes its section. -/
theorem exists_pairs_of_opened_eq_nil (h : (readLines text).opened = []) :
    ∃ partner, Pairs text (ClosesFirstAt text) partner := by
  have hends : ((readLines text).sections.map Section.endLine).Nodup :=
    ((pairwise_closingLines text).sublist (accounts_readLines text).closed).imp Nat.ne_of_lt
  -- the partner of a line, as long as the line opens a section
  have hpartner : ∀ line, ∃ place : ℕ × ℕ, ∀ name, OpensAt text line name →
      line ≤ place.1 ∧ ClosesFirstAt text place.1 place.2 name ∧
        ∃ s ∈ (readLines text).sections, s.startLine = line ∧ s.endLine = place.1 := by
    intro line
    by_cases hopens : ∃ name, OpensAt text line name
    · obtain ⟨name, hname⟩ := hopens
      obtain ⟨s, hs, hstart, hle, offset, hcloses⟩ := exists_section_of_opensAt h hname
      refine ⟨(s.endLine, offset), fun other hother => ?_⟩
      obtain rfl := hname.unique hother
      exact ⟨hle, hcloses, s, hs, hstart, rfl⟩
    · exact ⟨(0, 0), fun name hname => absurd ⟨name, hname⟩ hopens⟩
  choose partner hpartner using hpartner
  refine ⟨partner, fun line name hname => (hpartner line name hname).2.1,
    fun line name hname => (hpartner line name hname).1, ?_⟩
  intro line name line' name' hname hname' heq
  obtain ⟨-, -, s, hs, hstart, hend⟩ := hpartner line name hname
  obtain ⟨-, -, s', hs', hstart', hend'⟩ := hpartner line' name' hname'
  -- no two sections end in one line
  have hsame : s = s' :=
    List.inj_on_of_nodup_map hends hs hs' (hend.trans ((congrArg Prod.fst heq).trans hend'.symm))
  rw [← hstart, ← hstart', hsame]

end Closed

/-- Where the opening tags of a text are paired with first closing tags all sections are closed. -/
theorem opened_eq_nil_of_pairs {text : List Char} {partner : ℕ → ℕ × ℕ}
    (h : Pairs text (ClosesFirstAt text) partner) : (readLines text).opened = [] := by
  refine List.eq_nil_iff_forall_not_mem.mpr fun o ho => ?_
  have hfollows : (readLines text).tagged.Follows o.name
      (Matching.ofEvents (named o.name (events text))) :=
    tagged_readLines text ▸ Tagged.follows_foldl ⟨rfl, rfl⟩ (events text)
  -- an opening of the name stands at the start of a line
  have hopens : ∀ x ∈ openings (named o.name (events text)), OpensAt text x.startLine o.name := by
    intro x hx
    obtain ⟨e, he, hopening⟩ := List.mem_filterMap.mp hx
    obtain ⟨he, hname⟩ := List.mem_filter.mp he
    cases e with
    | closes name line => cases hopening
    | opens name line =>
      cases hopening
      exact beq_iff_eq.mp hname ▸ opens_mem_events.mp he
  have hpending : (Matching.ofEvents (named o.name (events text))).pending = [] := by
    refine Matching.pending_eq_nil ((pairwise_events text).filter _)
      (fun line => (partner line).1) (fun x hx => ?_)
      (fun x hx => h.behind _ _ (hopens x hx)) fun x hx y hy heq => ?_
    · refine List.mem_filterMap.mpr ⟨.closes o.name (partner x.startLine).1, ?_, rfl⟩
      exact List.mem_filter.mpr
        ⟨closes_mem_events.mpr ⟨_, h.closes _ _ (hopens x hx)⟩, beq_self_eq_true _⟩
    · -- the first closing tags of one line are the same
      refine h.injective _ _ _ _ (hopens x hx) (hopens y hy) (Prod.ext heq ?_)
      have hx := h.closes _ _ (hopens x hx)
      have hy := h.closes _ _ (hopens y hy)
      rw [show (partner x.startLine).1 = (partner y.startLine).1 from heq] at hx
      exact hx.offset_unique hy
  have hnone := hfollows.2
  rw [hpending, List.reverse_nil, List.map_eq_nil_iff, List.filter_eq_nil_iff] at hnone
  exact hnone o ho (beq_self_eq_true o.name)

/-- An instruction that is read from a text has no error exactly if its opening tags can be paired
with first closing tags of lines. So it has none where the opening tags can be paired with any
closing tags, as long as no line holds two of these. -/
theorem parseError?_parse_eq_none_iff (agentName : String) (path : Path) (text : List Char) :
    ((parse agentName path text).parseError? = none ↔
        ∃ partner, Pairs text (ClosesFirstAt text) partner) ∧
      ((∀ line offset name offset' name', ClosesAt text line offset name →
          ClosesAt text line offset' name' → offset = offset') →
        (∃ partner, Pairs text (ClosesAt text) partner) →
          (parse agentName path text).parseError? = none) := by
  have hiff : (parse agentName path text).parseError? = none ↔
      ∃ partner, Pairs text (ClosesFirstAt text) partner := by
    rw [parseError?_eq_none]
    exact ⟨exists_pairs_of_opened_eq_nil, fun ⟨_, h⟩ => opened_eq_nil_of_pairs h⟩
  refine ⟨hiff, fun hsingle ⟨partner, h⟩ => hiff.mpr ⟨partner, ?_, h.behind, h.injective⟩⟩
  -- a closing tag without another one in its line is the first one of the line
  intro line name hopens
  have hcloses := h.closes line name hopens
  exact ⟨hcloses, fun earlier hlt other hother =>
    absurd (hsingle _ _ _ _ _ hother hcloses) (Nat.ne_of_lt hlt)⟩

/-- Two closing tags in one line do not close two sections, though they are partners of the tags that
open these. -/
theorem parseError?_parse_two_closings :
    let text := "<role>\n<persona>\nBe kind.</persona></role>".toList
    (∃ partner, Pairs text (ClosesAt text) partner) ∧
      (parse "agent" ⟨.root, []⟩ text).parseError? =
        some "Unclosed section(s): <role> at line 1" := by
  intro text
  have hevents : events text = [.opens "role" 1, .opens "persona" 2, .closes "persona" 3] := by
    decide +kernel
  have hopens : ∀ line name, OpensAt text line name →
      line = 1 ∧ name = "role" ∨ line = 2 ∧ name = "persona" := by
    intro line name h
    have hmem := opens_mem_events.mpr h
    rw [hevents] at hmem
    simpa [and_comm] using hmem
  have hcloses : ∀ tag rest offset, tagName? (tag ++ '>' :: rest) = some tag →
      "Be kind.</persona></role>".toList.drop offset = '<' :: '/' :: (tag ++ '>' :: rest) →
      ClosesAt text 3 offset (lowered tag) := by
    intro tag rest offset htag hdrop
    obtain ⟨rest', hcs, hname⟩ := tagName?_eq_some.mp htag
    exact ⟨"Be kind.</persona></role>".toList, by decide +kernel, tag, rest, hdrop, hname, rfl⟩
  refine ⟨⟨fun line => if line = 1 then (3, 18) else (3, 8), ?_, ?_, ?_⟩, by decide +kernel⟩
  · intro line name h
    rcases hopens line name h with ⟨rfl, rfl⟩ | ⟨rfl, rfl⟩
    · exact hcloses "role".toList [] 18 (by decide) (by decide)
    · exact hcloses "persona".toList "</role>".toList 8 (by decide) (by decide)
  · intro line name h
    rcases hopens line name h with ⟨rfl, rfl⟩ | ⟨rfl, rfl⟩ <;> decide
  · intro line name line' name' h h' heq
    rcases hopens line name h with ⟨rfl, rfl⟩ | ⟨rfl, rfl⟩ <;>
      rcases hopens line' name' h' with ⟨rfl, rfl⟩ | ⟨rfl, rfl⟩ <;> simp_all

end AgentPackage.Markup
