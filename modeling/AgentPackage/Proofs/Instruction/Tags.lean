import AgentPackage.Instruction.Markup
import AgentPackage.Proofs.Text.Occurrence

/-!
# Tags of sections

Which tags a line is read by, said without the reader: the opening tag that it starts with and the
first of its closing tags.

## Main definitions

* `Markup.IsSectionName`: a text is the name of a section, case being ignored;
* `Markup.OpensWith`: a text starts with the opening tag of a section;
* `Markup.ClosesFirst`: the first closing tag in a text is that of a section.

## Main results

* `Markup.opening?_eq_some`, `Markup.closing?_eq_some`: the reader finds these tags.
-/

namespace AgentPackage

namespace Markup

/-- A text is the name of a section, case being ignored. -/
def IsSectionName (tag : List Char) : Prop :=
  ∃ name ∈ sectionNames, Text.Spells name.toList tag

/-- A text starts with the opening tag of a section, whose name in lower case is `name`. -/
def OpensWith (cs : List Char) (name : String) : Prop :=
  ∃ tag rest, cs = '<' :: (tag ++ '>' :: rest) ∧ IsSectionName tag ∧ name = lowered tag

/-- A text starts with the closing tag of a section, whose name in lower case is `name`. -/
def ClosesWith (cs : List Char) (name : String) : Prop :=
  ∃ tag rest, cs = '<' :: '/' :: (tag ++ '>' :: rest) ∧ IsSectionName tag ∧ name = lowered tag

/-- The first closing tag of a section in a text has the name `name`, in lower case. -/
def ClosesFirst (cs : List Char) (name : String) : Prop :=
  ∃ before after, cs = before ++ after ∧ ClosesWith after name ∧
    ∀ i < before.length, ∀ other, ¬ ClosesWith (cs.drop i) other

/-- The name of a section holds no closing bracket. -/
theorem IsSectionName.bracket_notMem {tag : List Char} (h : IsSectionName tag) : '>' ∉ tag := by
  obtain ⟨name, hname, hspelled⟩ := h
  intro hmem
  obtain ⟨i, hi, hc⟩ := List.mem_iff_getElem.mp hmem
  obtain ⟨hlength, hsame⟩ := List.forall₂_iff_get.mp hspelled
  have hletter := hsame i (hlength ▸ hi) hi
  simp only [List.get_eq_getElem, hc] at hletter
  -- no letter of a section's name is the same as a bracket
  have hletters : (sectionNames.all fun name => name.toList.all fun letter =>
      !Text.sameLetter letter '>') = true := by decide
  have hother := List.all_eq_true.mp (List.all_eq_true.mp hletters name hname) _
    (List.getElem_mem (hlength ▸ hi))
  rw [hletter] at hother
  cases hother

/-- What stands before the first closing bracket is the tag. -/
theorem eq_of_append_bracket {tag tag' rest rest' : List Char} (htag : '>' ∉ tag)
    (htag' : '>' ∉ tag') (h : tag ++ '>' :: rest = tag' ++ '>' :: rest') : tag = tag' := by
  have hbefore : ∀ tag rest : List Char, '>' ∉ tag →
      (tag ++ '>' :: rest).takeWhile (· != '>') = tag := by
    intro tag rest htag
    rw [List.takeWhile_append_of_pos fun c hc => by
      simpa using fun heq : c = '>' => htag (heq ▸ hc)]
    simp
  rw [← hbefore tag rest htag, h, hbefore tag' rest' htag']

/-- The name that a tag is read as is what stands before its closing bracket. -/
theorem tagName?_eq_some {cs tag : List Char} :
    tagName? cs = some tag ↔ ∃ rest, cs = tag ++ '>' :: rest ∧ IsSectionName tag := by
  -- a name is found with the bracket behind it
  obtain ⟨found?, htagName?, hfound⟩ : ∃ found? : String → Option (List Char),
      tagName? cs = sectionNames.findSome? found? ∧ ∀ name tag, found? name = some tag ↔
        ∃ rest, cs = tag ++ '>' :: rest ∧ Text.Spells name.toList tag := by
    refine ⟨_, rfl, fun name tag => ?_⟩
    constructor
    · intro h
      split at h
      · rename_i rest hdrop
        obtain ⟨spelled, rfl, hspelled⟩ := Text.dropWord?_eq_some.mp hdrop
        have hlength : name.length = spelled.length := by
          rw [← String.length_toList]
          exact hspelled.length_eq
        obtain rfl : spelled = tag := by
          rw [hlength, List.take_left] at h
          exact Option.some.inj h
        exact ⟨rest, rfl, hspelled⟩
      · cases h
    · rintro ⟨rest, rfl, hspelled⟩
      have hlength : name.length = tag.length := by
        rw [← String.length_toList]
        exact hspelled.length_eq
      rw [Text.dropWord?_eq_some.mpr ⟨tag, rfl, hspelled⟩]
      simp [hlength]
  rw [htagName?]
  constructor
  · intro h
    obtain ⟨name, hname, h⟩ := List.exists_of_findSome?_eq_some h
    obtain ⟨rest, hcs, hspelled⟩ := (hfound name tag).mp h
    exact ⟨rest, hcs, name, hname, hspelled⟩
  · rintro ⟨rest, hcs, name, hname, hspelled⟩
    -- another name that is found first has the same text before its bracket
    cases hfind : sectionNames.findSome? found? with
    | none =>
      have hnone := List.findSome?_eq_none_iff.mp hfind name hname
      cases hnone.symm.trans ((hfound name tag).mpr ⟨rest, hcs, hspelled⟩)
    | some tag' =>
      obtain ⟨name', hname', hsome'⟩ := List.exists_of_findSome?_eq_some hfind
      obtain ⟨rest', hcs', hspelled'⟩ := (hfound name' tag').mp hsome'
      rw [eq_of_append_bracket (IsSectionName.bracket_notMem ⟨name', hname', hspelled'⟩)
        (IsSectionName.bracket_notMem ⟨name, hname, hspelled⟩) (hcs'.symm.trans hcs)]

/-- A line opens the section with whose opening tag it starts. -/
theorem opening?_eq_some {cs : List Char} {name : String} :
    opening? cs = some name ↔ OpensWith cs name := by
  unfold opening? OpensWith
  split
  · rename_i cs
    rw [Option.map_eq_some_iff]
    constructor
    · rintro ⟨tag, htag, rfl⟩
      obtain ⟨rest, rfl, hname⟩ := tagName?_eq_some.mp htag
      exact ⟨tag, rest, rfl, hname, rfl⟩
    · rintro ⟨tag, rest, hcs, hname, rfl⟩
      exact ⟨tag, tagName?_eq_some.mpr ⟨rest, List.cons.inj hcs |>.2, hname⟩, rfl⟩
  · rename_i hne
    simp only [reduceCtorEq, false_iff]
    rintro ⟨tag, rest, rfl, -⟩
    exact hne _ rfl

/-- A closing tag at the start of a text comes first. -/
theorem ClosesWith.closesFirst {cs : List Char} {name : String} (h : ClosesWith cs name) :
    ClosesFirst cs name :=
  ⟨[], cs, rfl, h, fun _ hi => absurd hi (Nat.not_lt_zero _)⟩

/-- A text has one closing tag at its start. -/
theorem ClosesWith.unique {cs : List Char} {name other : String} (h : ClosesWith cs name)
    (h' : ClosesWith cs other) : name = other := by
  obtain ⟨tag, rest, rfl, htag, rfl⟩ := h
  obtain ⟨tag', rest', hcs, htag', rfl⟩ := h'
  rw [List.cons.injEq, List.cons.injEq] at hcs
  rw [eq_of_append_bracket htag.bracket_notMem htag'.bracket_notMem hcs.2.2]

/-- Behind a character that starts no closing tag the first closing tag stays the same. -/
theorem closesFirst_cons {c : Char} {cs : List Char} {name : String}
    (h : ∀ other, ¬ ClosesWith (c :: cs) other) :
    ClosesFirst (c :: cs) name ↔ ClosesFirst cs name := by
  constructor
  · rintro ⟨before, after, hcs, hafter, hbefore⟩
    cases before with
    | nil =>
      rw [List.nil_append] at hcs
      exact absurd (hcs ▸ hafter) (h name)
    | cons b before =>
      refine ⟨before, after, (List.cons.inj hcs).2, hafter, fun i hi other => ?_⟩
      simpa using hbefore (i + 1) (by simpa using hi) other
  · rintro ⟨before, after, rfl, hafter, hbefore⟩
    refine ⟨c :: before, after, rfl, hafter, fun i hi other => ?_⟩
    cases i with
    | zero => exact h other
    | succ i => simpa using hbefore i (by simpa using hi) other

/-- A line closes the section of its first closing tag. -/
theorem closing?_eq_some {cs : List Char} {name : String} :
    closing? cs = some name ↔ ClosesFirst cs name := by
  fun_induction closing? cs with
  | case1 =>
    simp only [reduceCtorEq, false_iff]
    rintro ⟨before, after, hcs, ⟨tag, rest, hafter, -⟩, -⟩
    rw [hafter] at hcs
    simp at hcs
  | case2 rest tag htag =>
    -- a closing tag at the start is the first one
    obtain ⟨rest, rfl, hname⟩ := tagName?_eq_some.mp htag
    have hcloses : ClosesWith ('<' :: '/' :: (tag ++ '>' :: rest)) (lowered tag) :=
      ⟨tag, rest, rfl, hname, rfl⟩
    constructor
    · intro h
      exact Option.some.inj h ▸ hcloses.closesFirst
    · rintro ⟨before, after, hcs, hafter, hbefore⟩
      cases before with
      | nil =>
        rw [List.nil_append] at hcs
        exact congrArg some (hcloses.unique (hcs ▸ hafter))
      | cons b before => exact absurd hcloses (hbefore 0 (Nat.succ_pos _) _)
  | case3 rest hnone ih =>
    -- the start of a closing tag of no section
    rw [ih]
    refine (closesFirst_cons fun other hcloses => ?_).symm
    obtain ⟨tag, rest', hcs, hname, -⟩ := hcloses
    rw [List.cons.injEq, List.cons.injEq] at hcs
    rw [tagName?_eq_some.mpr ⟨rest', hcs.2.2, hname⟩] at hnone
    cases hnone
  | case4 c cs hne ih =>
    rw [ih]
    refine (closesFirst_cons fun other hcloses => ?_).symm
    obtain ⟨tag, rest, hcs, -⟩ := hcloses
    rw [List.cons.injEq] at hcs
    exact hne _ hcs.1 hcs.2

end Markup

end AgentPackage
