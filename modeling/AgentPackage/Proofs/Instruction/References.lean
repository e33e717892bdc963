import AgentPackage.Proofs.Instruction.Scanning

/-!
# References of instructions

The references of a line are found from left to right: each is the first one behind the one before
it, so that no two of them share a character. A text is read line by line, and in each line the
references to agents come before those to tools.

## Main definitions

* `Markup.RefersAt`: a reference stands at the start of a text;
* `Markup.Refers`: the references of a text have some names, in order.

## Main results

* `Markup.refers_iff`: these are the names that are found;
* `Markup.referencesOf_parse`: the references of a kind that are read from a text.
-/

namespace AgentPackage.Markup

/-- At the start of a text stands a reference with a name: its marker, a text that is not empty and
holds no closing brace, and a closing brace. The name is that text without the blanks around it. -/
def RefersAt (kind : ReferenceKind) (cs : List Char) (name : String) (rest : List Char) : Prop :=
  ∃ body, cs = marker kind ++ (body ++ '\x7d' :: rest) ∧ '\x7d' ∉ body ∧ body ≠ [] ∧
    name = String.ofList (Text.trimChars body)

/-- The references of a text, from left to right, have the names. The next one is looked for behind
the closing brace of the one before it. -/
inductive Refers (kind : ReferenceKind) : List Char → List String → Prop where
  /-- No reference stands anywhere. -/
  | done {cs : List Char} (h : ∀ i name rest, ¬ RefersAt kind (cs.drop i) name rest) :
      Refers kind cs []
  /-- The first reference stands behind a text in which none starts. -/
  | next {before cs rest : List Char} {name : String} {names : List String}
      (hbefore : ∀ i < before.length, ∀ name rest, ¬ RefersAt kind ((before ++ cs).drop i) name rest)
      (hfirst : RefersAt kind cs name rest) (hrest : Refers kind rest names) :
      Refers kind (before ++ cs) (name :: names)

section Line

variable {kind : ReferenceKind} {cs rest : List Char} {name : String} {names : List String}

theorem referenceAt?_eq_some_iff :
    referenceAt? kind cs = some (name, rest) ↔ RefersAt kind cs name rest :=
  referenceAt?_eq_some

theorem referenceAt?_eq_none_iff :
    referenceAt? kind cs = none ↔ ∀ name rest, ¬ RefersAt kind cs name rest := by
  rw [Option.eq_none_iff_forall_ne_some]
  constructor
  · exact fun h name rest hat => h (name, rest) (referenceAt?_eq_some_iff.mpr hat)
  · exact fun h ⟨name, rest⟩ hat => h name rest (referenceAt?_eq_some_iff.mp hat)

/-- A character at which no reference starts is passed over. -/
theorem Refers.cons {c : Char} (h : Refers kind cs names)
    (hnone : ∀ name rest, ¬ RefersAt kind (c :: cs) name rest) : Refers kind (c :: cs) names := by
  cases h with
  | done h =>
    refine .done fun i => ?_
    cases i with
    | zero => exact hnone
    | succ i => exact h i
  | @next before cs rest name names hbefore hfirst hrest =>
    have hbefore' : ∀ i < (c :: before).length, ∀ name rest,
        ¬ RefersAt kind ((c :: before ++ cs).drop i) name rest := by
      intro i hi
      cases i with
      | zero => exact hnone
      | succ i => exact hbefore i (Nat.lt_of_succ_lt_succ hi)
    exact .next hbefore' hfirst hrest

/-- The names that are found are those of the references. -/
theorem refers_references (kind : ReferenceKind) (cs : List Char) :
    Refers kind cs (references kind cs) := by
  fun_induction references kind cs with
  | case1 cs name rest hsome ih =>
    have hbefore : ∀ i < ([] : List Char).length, ∀ name rest,
        ¬ RefersAt kind (([] ++ cs).drop i) name rest := fun i hi => absurd hi (Nat.not_lt_zero i)
    exact .next hbefore (referenceAt?_eq_some_iff.mp hsome) ih
  | case2 hnone =>
    refine .done fun i => ?_
    rw [List.drop_nil]
    exact referenceAt?_eq_none_iff.mp hnone
  | case3 c cs hnone ih => exact ih.cons (referenceAt?_eq_none_iff.mp hnone)

/-- Where no reference starts in a first part of a text, all are found behind it. -/
theorem references_append {before : List Char}
    (h : ∀ i < before.length, ∀ name rest, ¬ RefersAt kind ((before ++ cs).drop i) name rest) :
    references kind (before ++ cs) = references kind cs := by
  induction before with
  | nil => rfl
  | cons c before ih =>
    have hhead : referenceAt? kind (c :: (before ++ cs)) = none :=
      referenceAt?_eq_none_iff.mpr (h 0 (Nat.succ_pos _))
    rw [List.cons_append, references_of_none hhead]
    exact ih fun i hi => h (i + 1) (Nat.succ_lt_succ hi)

/-- The references of a text have the names that are found, and no others. -/
theorem refers_iff : Refers kind cs names ↔ references kind cs = names := by
  constructor
  · intro h
    -- along the references
    induction h with
    | @done cs h =>
      have hall : ∀ i < cs.length, ∀ name rest,
          ¬ RefersAt kind ((cs ++ []).drop i) name rest := fun i _ => by
        rw [List.append_nil]
        exact h i
      have hnone := references_append hall
      rwa [List.append_nil, references_nil] at hnone
    | next hbefore hfirst _ ih =>
      rw [references_append hbefore, references_of_some (referenceAt?_eq_some_iff.mpr hfirst), ih]
  · rintro rfl
    exact refers_references kind cs

end Line

section Text

/-- The references of a kind in a numbered line. -/
def referencesIn (kind : ReferenceKind) (numbered : List Char × ℕ) : List Reference :=
  (references kind numbered.1).map fun name => ⟨kind, name, numbered.2⟩

/-- Tags do not give references. -/
theorem references_closeSection_openSection (s : State) (number : ℕ) (o? c? : Option String) :
    ((s.openSection number o?).closeSection number c?).references = s.references := by
  have hclose : ∀ s : State, (s.closeSection number c?).references = s.references := by
    intro s
    rw [State.closeSection]
    split <;> rfl
  rw [hclose]
  cases o? <;> rfl

/-- Reading a line adds its references to agents and then those to tools. -/
theorem references_step (s : State) (numbered : List Char × ℕ) :
    (s.step numbered).references =
      s.references ++ referencesIn .agent numbered ++ referencesIn .tool numbered := by
  simp only [State.step, references_closeSection_openSection]
  rfl

/-- Reading lines adds the references of each of them. -/
theorem references_foldl_step (numbered : List (List Char × ℕ)) (s : State) :
    (numbered.foldl State.step s).references =
      s.references ++ numbered.flatMap fun l => referencesIn .agent l ++ referencesIn .tool l := by
  induction numbered generalizing s with
  | nil => exact (List.append_nil _).symm
  | cons l numbered ih =>
    rw [List.foldl_cons, ih, references_step, List.flatMap_cons]
    simp only [List.append_assoc]

/-- Of the references in a line those of a kind are kept. -/
theorem filter_referencesIn (kind other : ReferenceKind) (numbered : List Char × ℕ) :
    (referencesIn other numbered).filter (fun r => r.kind == kind) =
      if other = kind then referencesIn other numbered else [] := by
  split
  · rename_i h
    refine List.filter_eq_self.mpr fun r hr => ?_
    obtain ⟨name, -, rfl⟩ := List.mem_map.mp hr
    exact beq_iff_eq.mpr h
  · rename_i h
    refine List.filter_eq_nil_iff.mpr fun r hr hkind => h ?_
    obtain ⟨name, -, rfl⟩ := List.mem_map.mp hr
    exact beq_iff_eq.mp hkind

/-- The references of a kind that are read from a text are those of its lines. -/
theorem referencesOf_parse (agentName : String) (path : Path) (text : List Char)
    (kind : ReferenceKind) :
    (parse agentName path text).referencesOf kind =
      ((Text.lines text).zipIdx 1).flatMap (referencesIn kind) := by
  have hall : (parse agentName path text).references = ((Text.lines text).zipIdx 1).flatMap
      fun l => referencesIn .agent l ++ referencesIn .tool l :=
    references_foldl_step _ {}
  rw [Instruction.referencesOf, hall, List.filter_flatMap]
  refine congrArg (List.flatMap · _) (funext fun l => ?_)
  rw [List.filter_append, filter_referencesIn, filter_referencesIn]
  cases kind <;> simp

end Text

end AgentPackage.Markup
