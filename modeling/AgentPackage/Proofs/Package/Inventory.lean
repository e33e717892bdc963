import AgentPackage.Package.Inventory
import Mathlib.Data.Finset.Dedup
import Mathlib.Data.Finset.Lattice.Basic
import Mathlib.Data.List.Sort
import Mathlib.Data.String.Basic

/-!
# Inventories as sets of names

An inventory holds each name once and in order. It therefore depends on which agents, toolsets and
script tools there are and not on their order or on repetitions, and it grows with them as sets do.
What it holds is said here in terms of the manifests, without the way in which names are collected.

## Main definitions

* `ListsTool`: an agent lists a tool whose name is not blank;
* `Declares`: an operation of a toolset is listed by a reference to it or by its own manifest;
* `Collects`: an inventory holds the names of some agents, toolsets and script tools;
* `sets`: the three sets of names in an inventory.

## Main results

* `orderedNames_eq_iff`: ordered names are the same exactly when the names are, as sets;
* `collects_build`: the names in the inventory that is built;
* `build_homomorphism`: building depends on sets of entries and takes their union to that of names.
-/

namespace AgentPackage.Inventory

section Ordered

/-- Putting a name into a list keeps it in order. -/
theorem pairwise_insertName {name : String} {names : List String} (h : names.Pairwise (· < ·)) :
    (insertName name names).Pairwise (· < ·) := by
  fun_induction insertName name names with
  | case1 => exact List.pairwise_singleton _ _
  | case2 => exact h
  | case3 n ns hne hlt =>
    refine .cons (fun m hm => ?_) h
    rcases List.mem_cons.mp hm with rfl | hm
    · exact hlt
    · exact hlt.trans (List.rel_of_pairwise_cons h hm)
  | case4 n ns hne hlt ih =>
    -- the name comes behind `n`, which it neither is nor precedes
    have hn : n < name := lt_of_le_of_ne (not_lt.mp hlt) fun heq => hne (beq_iff_eq.mpr heq.symm)
    refine .cons (fun m hm => ?_) (ih h.tail)
    rcases mem_insertName.mp hm with rfl | hm
    · exact hn
    · exact List.rel_of_pairwise_cons h hm

/-- Ordered names are in order, each once. -/
theorem pairwise_orderedNames (names : List String) : (orderedNames names).Pairwise (· < ·) := by
  have key : ∀ set : List String, set.Pairwise (· < ·) →
      (names.foldl (fun set name => insertName name set) set).Pairwise (· < ·) := by
    induction names with
    | nil => exact fun set hset => hset
    | cons name names ih => exact fun set hset => ih _ (pairwise_insertName hset)
  exact key [] .nil

/-- Ordered names are the same exactly when the names are, whatever their order and however often
they occur. -/
theorem orderedNames_eq_iff {xs ys : List String} :
    orderedNames xs = orderedNames ys ↔ ∀ x, x ∈ xs ↔ x ∈ ys := by
  constructor
  · intro h x
    rw [← mem_orderedNames, h, mem_orderedNames]
  · intro h
    refine (pairwise_orderedNames xs).eq_of_mem_iff (pairwise_orderedNames ys) fun x => ?_
    rw [mem_orderedNames, mem_orderedNames, h]

end Ordered

/-- The agent lists the tool, whose name is not blank. -/
def ListsTool (a : Entity AgentManifest) (tool : String) : Prop :=
  ∃ manifest tools, a.manifest = some manifest ∧ manifest.tools = some tools ∧ tool ∈ tools ∧
    Text.isAllBlank tool = false

/-- An operation, whose name is not blank, is declared for a toolset, which may go unnamed. -/
inductive Declares (agents : List (Entity AgentManifest)) (toolsets : List Toolset) :
    Option String → String → Prop where
  /-- An agent refers to the toolset and lists the operation with it. -/
  | reference {a manifest entries r ids id} (ha : a ∈ agents)
      (hmanifest : a.manifest = some manifest) (hentries : manifest.toolsets = some entries)
      (hr : .reference r ∈ entries)
      (hids : r.toolIds = some ids) (hid : id ∈ ids) (hblank : Text.isAllBlank id = false) :
      Declares agents toolsets r.toolset id
  /-- The toolset lists the operation itself. -/
  | folder {s manifest ids id} (hs : s ∈ toolsets) (hmanifest : s.entity.manifest = some manifest)
      (hids : manifest.toolIds = some ids) (hid : id ∈ ids) (hblank : Text.isAllBlank id = false) :
      Declares agents toolsets (some s.entity.name) id

variable {agents agents' : List (Entity AgentManifest)} {toolsets toolsets' : List Toolset}
  {scriptTools scriptTools' : List (Entity ScriptToolManifest)}

section Collected

theorem mem_notBlank {names : Option (List String)} {x : String} :
    x ∈ notBlank names ↔ ∃ ns, names = some ns ∧ x ∈ ns ∧ Text.isAllBlank x = false := by
  cases names with
  | none => simp [notBlank]
  | some ns => simp [notBlank]

theorem mem_agentTools {a : Entity AgentManifest} {tool : String} :
    tool ∈ agentTools a ↔ ListsTool a tool := by
  simp only [agentTools, mem_notBlank, ListsTool, Option.bind_eq_some_iff]
  constructor
  · rintro ⟨tools, ⟨manifest, hmanifest, htools⟩, hmem, hblank⟩
    exact ⟨manifest, tools, hmanifest, htools, hmem, hblank⟩
  · rintro ⟨manifest, tools, hmanifest, htools, hmem, hblank⟩
    exact ⟨tools, ⟨manifest, hmanifest, htools⟩, hmem, hblank⟩

theorem mem_agentReferences {a : Entity AgentManifest} {r : ToolsetReference} :
    r ∈ agentReferences a ↔ ∃ manifest entries, a.manifest = some manifest ∧
      manifest.toolsets = some entries ∧ .reference r ∈ entries := by
  unfold agentReferences
  rw [List.mem_filterMap]
  constructor
  · rintro ⟨entry, hentry, hr⟩
    -- only a reference is taken, and the list it stands in must be there
    cases entry with
    | name s => cases hr
    | reference r' =>
      cases hr
      cases hmanifest : a.manifest with
      | none => simp [hmanifest] at hentry
      | some manifest =>
        cases hentries : manifest.toolsets with
        | none => simp [hmanifest, hentries] at hentry
        | some entries =>
          simp only [hmanifest, hentries, Option.bind_some, Option.getD_some] at hentry
          exact ⟨manifest, entries, rfl, hentries, hentry⟩
  · rintro ⟨manifest, entries, hmanifest, hentries, hr⟩
    refine ⟨.reference r, ?_, rfl⟩
    rwa [hmanifest, Option.bind_some, hentries, Option.getD_some]

theorem mem_operationsOf {toolset toolset' : Option String} {ids : Option (List String)}
    {id : String} :
    (toolset', id) ∈ operationsOf toolset ids ↔
      toolset' = toolset ∧ ∃ is, ids = some is ∧ id ∈ is ∧ Text.isAllBlank id = false := by
  simp only [operationsOf, List.mem_map, Prod.mk.injEq, mem_notBlank]
  grind

/-- The operations that are collected are the ones that are declared. -/
theorem mem_allOperations {toolset : Option String} {id : String} :
    (toolset, id) ∈ allOperations agents toolsets ↔ Declares agents toolsets toolset id := by
  unfold allOperations
  rw [List.mem_append, List.mem_flatMap, List.mem_flatMap]
  simp only [List.mem_flatMap, mem_agentReferences, mem_operationsOf, Option.bind_eq_some_iff]
  -- an operation is collected with a reference of an agent or with the folder of a toolset
  constructor
  · rintro (⟨a, ha, r, ⟨manifest, entries, hmanifest, hentries, hr⟩, rfl, ids, hids, hid, hblank⟩ |
      ⟨s, hs, rfl, ids, ⟨manifest, hmanifest, hids⟩, hid, hblank⟩)
    · exact .reference ha hmanifest hentries hr hids hid hblank
    · exact .folder hs hmanifest hids hid hblank
  · intro h
    cases h with
    | @reference a manifest entries r ids _ ha hmanifest hentries hr hids hid hblank =>
      exact .inl ⟨a, ha, r, ⟨manifest, entries, hmanifest, hentries, hr⟩, rfl, ids, hids, hid,
        hblank⟩
    | @folder s manifest ids _ hs hmanifest hids hid hblank =>
      exact .inr ⟨s, hs, rfl, ids, ⟨manifest, hmanifest, hids⟩, hid, hblank⟩

/-- An operation has a name with its toolset in front if the toolset has a name. -/
theorem namespacedName?_eq_some {toolset : Option String} {id name : String} :
    namespacedName? (toolset, id) = some name ↔
      ∃ s, toolset = some s ∧ s ≠ "" ∧ name = s ++ "." ++ id := by
  cases toolset with
  | none => simp [namespacedName?]
  | some s =>
    by_cases hs : s = ""
    · simp [namespacedName?, hs]
    · simp only [namespacedName?, beq_iff_eq, hs, if_false, Option.some.injEq]
      constructor
      · rintro rfl
        exact ⟨s, rfl, hs, rfl⟩
      · rintro ⟨_, rfl, -, rfl⟩
        rfl

/-- The names in the inventory are those that the agents, toolsets and script tools give. -/
structure Collects (agents : List (Entity AgentManifest)) (toolsets : List Toolset)
    (scriptTools : List (Entity ScriptToolManifest)) (i : Inventory) : Prop where
  /-- The direct tools are those that agents list and the script tools. -/
  directTools : ∀ x, x ∈ i.directTools ↔
    (∃ a ∈ agents, ListsTool a x) ∨ ∃ s ∈ scriptTools, s.name = x
  /-- The operations are those that are declared. -/
  operations : ∀ id, id ∈ i.operations ↔ ∃ toolset, Declares agents toolsets toolset id
  /-- With a toolset in front they are those that are declared for one with a name. -/
  namespaced : ∀ x, x ∈ i.namespaced ↔
    ∃ toolset id, Declares agents toolsets (some toolset) id ∧ toolset ≠ "" ∧
      x = toolset ++ "." ++ id

/-- The names in the inventory that is built. -/
theorem collects_build (agents : List (Entity AgentManifest)) (toolsets : List Toolset)
    (scriptTools : List (Entity ScriptToolManifest)) :
    Collects agents toolsets scriptTools (build agents toolsets scriptTools) where
  directTools x := by
    simp only [build, mem_orderedNames, List.mem_append, List.mem_flatMap, mem_agentTools,
      List.mem_map]
  operations id := by
    simp only [build, mem_orderedNames, List.mem_map, Prod.exists, mem_allOperations,
      exists_eq_right]
  namespaced x := by
    simp only [build, mem_orderedNames, List.mem_filterMap, Prod.exists, mem_allOperations,
      namespacedName?_eq_some]
    constructor
    · rintro ⟨_, id, hdeclares, toolset, rfl, hne, rfl⟩
      exact ⟨toolset, id, hdeclares, hne, rfl⟩
    · rintro ⟨toolset, id, hdeclares, hne, rfl⟩
      exact ⟨some toolset, id, hdeclares, toolset, rfl, hne, rfl⟩

end Collected

section Homomorphism

/-- An operation with a blank name is not declared. -/
theorem Declares.not_blank {toolset : Option String} {id : String}
    (h : Declares agents toolsets toolset id) : Text.isAllBlank id = false := by
  cases h with
  | reference _ _ _ _ _ _ hblank => exact hblank
  | folder _ _ _ _ hblank => exact hblank

/-- What is declared in some lists is declared in all lists that have their entries. -/
theorem Declares.mono {toolset : Option String} {id : String}
    (h : Declares agents toolsets toolset id) (hagents : ∀ a ∈ agents, a ∈ agents')
    (htoolsets : ∀ s ∈ toolsets, s ∈ toolsets') : Declares agents' toolsets' toolset id := by
  cases h with
  | reference ha hmanifest hentries hr hids hid hblank =>
    exact .reference (hagents _ ha) hmanifest hentries hr hids hid hblank
  | folder hs hmanifest hids hid hblank => exact .folder (htoolsets _ hs) hmanifest hids hid hblank

/-- What is declared in concatenated lists is declared in the first ones or in the second ones. -/
theorem declares_append {toolset : Option String} {id : String} :
    Declares (agents ++ agents') (toolsets ++ toolsets') toolset id ↔
      Declares agents toolsets toolset id ∨ Declares agents' toolsets' toolset id := by
  constructor
  · -- the entry that declares the operation stands in one of the lists
    intro h
    cases h with
    | reference ha hmanifest hentries hr hids hid hblank =>
      rcases List.mem_append.mp ha with ha | ha
      · exact .inl (.reference ha hmanifest hentries hr hids hid hblank)
      · exact .inr (.reference ha hmanifest hentries hr hids hid hblank)
    | folder hs hmanifest hids hid hblank =>
      rcases List.mem_append.mp hs with hs | hs
      · exact .inl (.folder hs hmanifest hids hid hblank)
      · exact .inr (.folder hs hmanifest hids hid hblank)
  · rintro (h | h)
    · exact h.mono (fun _ => List.mem_append_left _) fun _ => List.mem_append_left _
    · exact h.mono (fun _ => List.mem_append_right _) fun _ => List.mem_append_right _

/-- The inventory depends on which entries there are. -/
theorem build_congr (hagents : ∀ a, a ∈ agents ↔ a ∈ agents')
    (htoolsets : ∀ s, s ∈ toolsets ↔ s ∈ toolsets')
    (hscriptTools : ∀ s, s ∈ scriptTools ↔ s ∈ scriptTools') :
    build agents toolsets scriptTools = build agents' toolsets' scriptTools' := by
  have hdeclares : ∀ toolset id,
      Declares agents toolsets toolset id ↔ Declares agents' toolsets' toolset id := fun _ _ =>
    ⟨fun h => h.mono (fun a => (hagents a).mp) fun s => (htoolsets s).mp,
      fun h => h.mono (fun a => (hagents a).mpr) fun s => (htoolsets s).mpr⟩
  -- ordered names are told apart by the names in them, and these by the entries that there are
  unfold build
  rw [Inventory.mk.injEq, orderedNames_eq_iff, orderedNames_eq_iff, orderedNames_eq_iff]
  refine ⟨fun x => ?_, fun x => ?_, fun x => ?_⟩
  · simp only [List.mem_append, List.mem_flatMap, List.mem_map, hagents, hscriptTools]
  · simp only [List.mem_map, Prod.exists, mem_allOperations, hdeclares]
  · simp only [List.mem_filterMap, Prod.exists, mem_allOperations, hdeclares]

/-- The sets of names in an inventory: the direct tools, the operations, and these with their
toolsets in front. -/
def sets (i : Inventory) : Finset String × Finset String × Finset String :=
  (i.directTools.toFinset, i.operations.toFinset, i.namespaced.toFinset)

/-- The inventory of concatenated lists is the union of the inventories. -/
theorem sets_build_append :
    (build (agents ++ agents') (toolsets ++ toolsets') (scriptTools ++ scriptTools')).sets =
      (build agents toolsets scriptTools).sets ⊔ (build agents' toolsets' scriptTools').sets := by
  -- in each of the three sets a name comes from one half of the lists or from the other
  refine Prod.ext (Finset.ext fun x => ?_)
    (Prod.ext (Finset.ext fun x => ?_) (Finset.ext fun x => ?_))
  · simp only [sets, Prod.fst_sup, Finset.sup_eq_union, Finset.mem_union, List.mem_toFinset,
      (collects_build _ _ _).directTools, List.mem_append, or_and_right, exists_or]
    exact or_or_or_comm
  · simp only [sets, Prod.snd_sup, Prod.fst_sup, Finset.sup_eq_union, Finset.mem_union,
      List.mem_toFinset, (collects_build _ _ _).operations, declares_append, exists_or]
  · simp only [sets, Prod.snd_sup, Finset.sup_eq_union, Finset.mem_union, List.mem_toFinset,
      (collects_build _ _ _).namespaced, declares_append, or_and_right, exists_or]

end Homomorphism

/-- Building an inventory takes sets of entries to sets of names. Order and repetitions of entries
do not matter, and concatenated lists give the union of the inventories. The direct tools are those
that agents list and the script tools; no operation is blank; and a name with a toolset in front is
that of an operation, made with a toolset that has a name and declares the operation. -/
theorem build_homomorphism (agents agents' : List (Entity AgentManifest))
    (toolsets toolsets' : List Toolset)
    (scriptTools scriptTools' : List (Entity ScriptToolManifest)) :
    ((∀ a, a ∈ agents ↔ a ∈ agents') → (∀ s, s ∈ toolsets ↔ s ∈ toolsets') →
        (∀ s, s ∈ scriptTools ↔ s ∈ scriptTools') →
        build agents toolsets scriptTools = build agents' toolsets' scriptTools') ∧
      (build (agents ++ agents') (toolsets ++ toolsets') (scriptTools ++ scriptTools')).sets =
        (build agents toolsets scriptTools).sets ⊔ (build agents' toolsets' scriptTools').sets ∧
      (∀ x, x ∈ (build agents toolsets scriptTools).directTools ↔
        (∃ a ∈ agents, ListsTool a x) ∨ ∃ s ∈ scriptTools, s.name = x) ∧
      (∀ id ∈ (build agents toolsets scriptTools).operations, Text.isAllBlank id = false) ∧
      ∀ x ∈ (build agents toolsets scriptTools).namespaced, ∃ toolset id,
        x = toolset ++ "." ++ id ∧ id ∈ (build agents toolsets scriptTools).operations ∧
          toolset ≠ "" ∧ Declares agents toolsets (some toolset) id := by
  have hcollects := collects_build agents toolsets scriptTools
  refine ⟨build_congr, sets_build_append, hcollects.directTools, fun id hid => ?_, fun x hx => ?_⟩
  · obtain ⟨toolset, hdeclares⟩ := (hcollects.operations id).mp hid
    exact hdeclares.not_blank
  · obtain ⟨toolset, id, hdeclares, hne, rfl⟩ := (hcollects.namespaced x).mp hx
    exact ⟨toolset, id, rfl, (hcollects.operations id).mpr ⟨_, hdeclares⟩, hne, hdeclares⟩

section Desk

/-- An agent that lists a tool and a blank one, names a toolset, and uses operations of two others,
one of which has no name. -/
def desk : Entity AgentManifest where
  name := "desk"
  dir := ⟨.root, ["agents", "desk"]⟩
  manifestPath := ⟨.root, ["agents", "desk", "desk.json"]⟩
  manifest := some
    { displayName := none, instruction := none, childAgents := none
      tools := some ["lookup", " "]
      toolsets := some
        [.name "orders", .reference ⟨some "books", some ["find", ""], []⟩,
          .reference ⟨none, some ["send"], []⟩]
      extras := [] }

/-- An agent without a manifest. -/
def back : Entity AgentManifest where
  name := "back"
  dir := ⟨.root, ["agents", "back"]⟩
  manifestPath := ⟨.root, ["agents", "back", "back.json"]⟩

/-- A toolset with an operation. -/
def orders : Toolset where
  entity :=
    { name := "orders"
      dir := ⟨.root, ["toolsets", "orders"]⟩
      manifestPath := ⟨.root, ["toolsets", "orders", "orders.json"]⟩
      manifest := some
        { displayName := none, openApiToolset := none, toolIds := some ["refund"], extras := [] } }
  schemaDir := ⟨.root, ["toolsets", "orders", "open_api_toolset"]⟩
  detectedSchema := none

/-- A script tool, whose manifest does not matter. -/
def clock : Entity ScriptToolManifest where
  name := "clock"
  dir := ⟨.root, ["tools", "clock"]⟩
  manifestPath := ⟨.root, ["tools", "clock", "clock.json"]⟩

/-- The two agents, the toolset and the script tool give the same names in another order and with
repetitions. -/
theorem build_homomorphism_desk :
    ((∀ a, a ∈ [desk, back] ↔ a ∈ [back, desk, back]) ∧ (∀ s, s ∈ [orders] ↔ s ∈ [orders, orders]) ∧
        ∀ s, s ∈ [clock] ↔ s ∈ [clock, clock]) ∧
      build [desk, back] [orders] [clock] =
        build [back, desk, back] [orders, orders] [clock, clock] ∧
      (build [desk, back] [orders] [clock]).directTools = ["clock", "lookup"] ∧
      (build [desk, back] [orders] [clock]).operations = ["find", "refund", "send"] ∧
      (build [desk, back] [orders] [clock]).namespaced = ["books.find", "orders.refund"] := by
  have hagents : ∀ a, a ∈ [desk, back] ↔ a ∈ [back, desk, back] := by
    simp only [List.mem_cons, List.not_mem_nil, or_false]
    grind
  have htoolsets : ∀ s, s ∈ [orders] ↔ s ∈ [orders, orders] := by simp
  have hscriptTools : ∀ s, s ∈ [clock] ↔ s ∈ [clock, clock] := by simp
  refine ⟨⟨hagents, htoolsets, hscriptTools⟩, ?_, by decide +kernel, by decide +kernel,
    by decide +kernel⟩
  exact (build_homomorphism _ _ _ _ _ _).1 hagents htoolsets hscriptTools

end Desk

end AgentPackage.Inventory
