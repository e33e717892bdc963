import AgentPackage.Proofs.Manifest.Rounds
import Mathlib.Data.List.Forall2

/-!
# Records of manifests

What a manifest that was loaded from a mapping holds of the mapping. A record holds a value either
in one of its fields or among its other keys. Cleaning drops and reports exactly what does not fit,
so a manifest holds all keys that no issue names, and of a list of strings all that are strings.

## Main definitions

* `Manifest.HoldsAt`: a record holds a value under a key;
* `Manifest.Kind`: the kinds of manifests;
* `Manifest.Kind.Loads`: what a loaded manifest and its issues say of a mapping.

## Main results

* `Manifest.holdsAt_of_get?`: a record of a mapping that fits holds the values of all its keys;
* `Manifest.Kind.exists_loads`: a mapping whose keys are strings is loaded as a manifest, if there is
  room for copying it.
-/

namespace AgentPackage

/-- What a field holds that takes a string or a list of strings. -/
inductive LeafContent where
  /-- A string, or none. -/
  | text (s : Option String)
  /-- A list of strings, or none. -/
  | texts (ss : Option (List String))
  deriving DecidableEq

/-- A field with this content holds a value: it is empty for the absent value. -/
def LeafContent.Holds : LeafContent → Value → Prop
  | .text s, v => v = s.elim .null .str
  | .texts none, v => v = .null
  | .texts (some ss), v => Shape.elements? v = some (ss.map .str)

namespace Manifest

/-- A record with some fields and other keys holds a value under a key: a field that has the key for
one of its spellings holds it, or it stands among the other keys. -/
def HoldsAt {α C : Type} (holds : C → Value → Prop) (declared : List (FieldShape α × C))
    (extras : Fields) (key : String) (v : Value) : Prop :=
  (∃ d ∈ declared, (d.1.key = key ∨ d.1.otherKey = key) ∧ holds d.2 v) ∨ extras.get? key = some v

/-- A record inside a manifest holds a mapping: it holds the values of all its keys. -/
def RecordHolds (declared : List (FieldShape LeafShape × LeafContent)) (extras : Fields)
    (v : Value) : Prop :=
  ∃ inner, v = .map inner ∧
    ∀ key w, Fields.get? inner key = some w → HoldsAt LeafContent.Holds declared extras key w

end Manifest

/-- The fields of a reference to a toolset. -/
def ToolsetReference.declared (r : ToolsetReference) : List (FieldShape LeafShape × LeafContent) :=
  [(Manifest.toolset, .text r.toolset), (Manifest.referenceToolIds, .texts r.toolIds)]

/-- The fields of the part about a schema. -/
def OpenApiToolset.declared (o : OpenApiToolset) : List (FieldShape LeafShape × LeafContent) :=
  [(Manifest.openApiSchema, .text o.openApiSchema)]

/-- An entry of a list of toolsets holds a value. -/
def ToolsetEntry.Holds : ToolsetEntry → Value → Prop
  | .name s, v => v = .str s
  | .reference r, v => Manifest.RecordHolds r.declared r.extras v

/-- What a field of a manifest holds. -/
inductive Content where
  /-- A string or a list of strings. -/
  | leaf (c : LeafContent)
  /-- A mapping, or none. -/
  | mapping (fields : Option Fields)
  /-- The part about a schema, or none. -/
  | openApi (o : Option OpenApiToolset)
  /-- A list of toolsets, or none. -/
  | toolsets (entries : Option (List ToolsetEntry))

/-- A field with this content holds a value: it is empty for the absent value. -/
def Content.Holds : Content → Value → Prop
  | .leaf c, v => c.Holds v
  | .mapping none, v | .openApi none, v | .toolsets none, v => v = .null
  | .mapping (some fields), v => ∃ es, v = .map es ∧ fields = Manifest.textKeyed es
  | .openApi (some o), v => Manifest.RecordHolds o.declared o.extras v
  | .toolsets (some entries), v =>
    ∃ xs, Shape.elements? v = some xs ∧ List.Forall₂ ToolsetEntry.Holds entries xs

namespace Manifest

/-- The kinds of manifests. -/
inductive Kind where
  /-- The manifest of a package. -/
  | app
  /-- The manifest of an agent. -/
  | agent
  /-- The manifest of a toolset. -/
  | toolset
  /-- The manifest of a guardrail. -/
  | guardrail
  /-- The manifest of a script tool. -/
  | scriptTool
  /-- The manifest of an evaluation. -/
  | evaluation
  deriving DecidableEq, Repr

namespace Kind

/-- The manifests of a kind. -/
def Record : Kind → Type
  | .app => AppManifest
  | .agent => AgentManifest
  | .toolset => ToolsetManifest
  | .guardrail => GuardrailManifest
  | .scriptTool => ScriptToolManifest
  | .evaluation => EvaluationManifest

/-- The shape of the manifests of a kind. -/
def shape : Kind → RecordShape Shape
  | .app => appShape
  | .agent => agentShape
  | .toolset => toolsetShape
  | .guardrail => guardrailShape
  | .scriptTool => scriptToolShape
  | .evaluation => evaluationShape

/-- The manifest of a kind in a clean mapping. -/
def build : (k : Kind) → Fields → k.Record
  | .app => Manifest.app
  | .agent => Manifest.agent
  | .toolset => toolsetManifest
  | .guardrail => Manifest.guardrail
  | .scriptTool => Manifest.scriptTool
  | .evaluation => Manifest.evaluation

/-- The fields of a manifest with what they hold. -/
def declared : (k : Kind) → k.Record → List (FieldShape Shape × Content)
  | .app, (m : AppManifest) =>
    [(displayName, .leaf (.text m.displayName)), (rootAgent, .leaf (.text m.rootAgent)),
     (globalInstruction, .leaf (.text m.globalInstruction)),
     (guardrails, .leaf (.texts m.guardrails))]
  | .agent, (m : AgentManifest) =>
    [(displayName, .leaf (.text m.displayName)), (instruction, .leaf (.text m.instruction)),
     (childAgents, .leaf (.texts m.childAgents)), (tools, .leaf (.texts m.tools)),
     (Manifest.toolsets, .toolsets m.toolsets)]
  | .toolset, (m : ToolsetManifest) =>
    [(displayName, .leaf (.text m.displayName)), (openApiToolset, .openApi m.openApiToolset),
     (toolIds, .leaf (.texts m.toolIds))]
  | .guardrail, (m : GuardrailManifest) => [(displayName, .leaf (.text m.displayName))]
  | .scriptTool, (m : ScriptToolManifest) => [(displayName, .leaf (.text m.displayName))]
  | .evaluation, (m : EvaluationManifest) =>
    [(displayName, .leaf (.text m.displayName)), (golden, .mapping m.golden)]

/-- The other keys of a manifest. -/
def extras : (k : Kind) → k.Record → Fields
  | .app, (m : AppManifest) => m.extras
  | .agent, (m : AgentManifest) => m.extras
  | .toolset, (m : ToolsetManifest) => m.extras
  | .guardrail, (m : GuardrailManifest) => m.extras
  | .scriptTool, (m : ScriptToolManifest) => m.extras
  | .evaluation, (m : EvaluationManifest) => m.extras

/-- Loads a mapping as a manifest of a kind. `room` is the number of calls that there is room for. -/
def load (k : Kind) (fields : Fields) (room : ℕ := callRoom) :
    Except Failure (k.Record × List FieldIssue) :=
  Manifest.load k.shape k.build fields room

/-- What a manifest that was loaded from a mapping, and the issues that were reported, say of the
mapping. -/
structure Loads (k : Kind) (fields : Fields) (record : k.Record) (issues : List FieldIssue) :
    Prop where
  /-- The manifest holds the value of each key that no issue names. -/
  holdsAt : ∀ key v, fields.get? key = some v → (∀ i ∈ issues, i.field ≠ key) →
    HoldsAt Content.Holds (k.declared record) (k.extras record) key v
  /-- Each issue names a key of a field whose value does not fit. -/
  misfit : ∀ i ∈ issues, ∃ f ∈ k.shape.fields, (f.key = i.field ∨ f.otherKey = i.field) ∧
    ∃ v, fields.get? i.field = some v ∧ f.shape.errors v ≠ []
  /-- Where a list of strings is found, the manifest holds its elements that are strings, and there
  is one issue about each of the others. -/
  texts : ∀ f ∈ k.shape.fields, f.shape = .leaf .texts →
    ∀ key xs, f.find? fields = some (key, .list xs) →
      (f, Content.leaf (.texts (some (xs.filterMap Value.str?)))) ∈ k.declared record ∧
        issues.filter (fun i => i.field == key) = Cleaning.textIssues key xs
  /-- There is no issue exactly if the mapping fits. -/
  issues_eq_nil : issues = [] ↔ k.shape.check fields = []
  /-- What is left of the mapping is loaded as the same manifest, without an issue. -/
  again : ∃ clean, Cleaning.clean k.shape fields = .ok (clean, issues) ∧
    ∀ room, fields.copyCalls ≤ room → k.load clean room = .ok (record, [])

end Kind

section Extras

variable {α C : Type} {r : RecordShape α} {fields : Fields} {key : String}

/-- A key under which no field is found is one of the other keys. -/
theorem get?_extrasOf (h : ∀ f ∈ r.fields, ∀ v, f.find? fields ≠ some (key, v)) :
    (extrasOf r fields).get? key = fields.get? key := by
  have hunused : key ∉ r.fields.filterMap fun f => (f.find? fields).map Prod.fst := by
    rw [List.mem_filterMap]
    rintro ⟨f, hf, hused⟩
    obtain ⟨⟨k, v⟩, hfind, hk⟩ := Option.map_eq_some_iff.mp hused
    exact h f hf v (hk ▸ hfind)
  -- among the entries with the key none is left out
  unfold Fields.get? extrasOf
  rw [List.find?_filter]
  congr 2
  funext ⟨k, v⟩
  cases k with
  | str k =>
    by_cases hk : k = key
    · subst hk
      simp only [Value.isString, Option.any_some, Value.str?, List.contains_eq_mem, hunused,
        decide_false, Bool.not_false, beq_self_eq_true, and_self, decide_true]
    · simp [Value.isString, hk]
  | _ => simp [Value.isString]

/-- A record of a mapping that fits holds the values of all its keys, if its fields hold those
that are found for them. -/
theorem holdsAt_of_get? {errors : α → Value → List FieldError} {holds : C → Value → Prop}
    {declared : List (FieldShape α × C)} (hfits : r.fieldErrors errors fields = [])
    (hholds : ∀ f ∈ r.fields, ∀ key v, f.find? fields = some (key, v) → errors f.shape v = [] →
      ∃ c, (f, c) ∈ declared ∧ holds c v) {v : Value} (hv : fields.get? key = some v) :
    HoldsAt holds declared (extrasOf r fields) key v := by
  by_cases hused : ∃ f ∈ r.fields, ∃ w, f.find? fields = some (key, w)
  · obtain ⟨f, hf, w, hfind⟩ := hused
    obtain rfl : w = v :=
      Option.some.inj ((FieldShape.find?_eq_some.mp hfind).1.symm.trans hv)
    obtain ⟨c, hc, hholds⟩ :=
      hholds f hf key w hfind (Cleaning.errors_eq_nil_of_check hfits hf hfind)
    exact .inl ⟨(f, c), hc, FieldShape.key_of_find? hfind, hholds⟩
  · push Not at hused
    exact .inr ((get?_extrasOf hused).trans hv)

end Extras

section Holds

variable {α : Type} {fields : Fields} {key : String} {v : Value}

/-- A value that fits a string is held by the string in the field. -/
theorem holds_textOf {f : FieldShape α} (hfind : f.find? fields = some (key, v))
    (hfits : LeafShape.text.errors v = []) : (LeafContent.text (textOf f fields)).Holds v := by
  rw [textOf, hfind]
  cases v with
  | null | str => rfl
  | _ => cases hfits

/-- Elements that are all strings are the strings among them. -/
theorem map_str_filterMap {xs : List Value} (h : ∀ x ∈ xs, x.isStr = true) :
    (xs.filterMap Value.str?).map .str = xs := by
  induction xs with
  | nil => rfl
  | cons x xs ih =>
    obtain ⟨hx, hxs⟩ := List.forall_mem_cons.mp h
    cases x with
    | str s => exact congrArg (Value.str s :: ·) (ih hxs)
    | _ => cases hx

/-- The strings among the elements that are strings are those among all. -/
theorem filterMap_filter_isStr (xs : List Value) :
    (xs.filter Value.isStr).filterMap Value.str? = xs.filterMap Value.str? := by
  rw [List.filterMap_filter]
  refine List.filterMap_congr fun x _ => ?_
  cases x <;> rfl

/-- A value that fits a list of strings is held by the strings in the field. -/
theorem holds_textsOf {f : FieldShape α} (hfind : f.find? fields = some (key, v))
    (hfits : LeafShape.texts.errors v = []) : (LeafContent.texts (textsOf f fields)).Holds v := by
  rw [textsOf, hfind]
  -- a sequence of any kind whose elements have no errors
  have hsequence : ∀ xs, Shape.elements? v = some xs →
      Shape.elementErrors Shape.textErrors xs = [] →
      (LeafContent.texts ((some (key, v)).bind fun e =>
        (Shape.elements? e.2).map fun xs => xs.filterMap Value.str?)).Holds v := by
    intro xs hxs herrors
    rw [Cleaning.elementErrors_textErrors, List.map_eq_nil_iff, Cleaning.strays_eq_nil] at herrors
    simp only [Option.bind_some, hxs, Option.map_some, LeafContent.Holds,
      map_str_filterMap herrors]
  cases v with
  | null => rfl
  | list xs | tuple xs | set xs => exact hsequence xs rfl hfits
  | _ => cases hfits

/-- A mapping that fits a record inside a manifest is held by the record, if the fields of the record
hold the values that are found for them. -/
theorem recordHolds_of_fits {r : RecordShape LeafShape} {inner : Fields}
    {declared : List (FieldShape LeafShape × LeafContent)}
    (hfits : r.errors LeafShape.errors (.map inner) = [])
    (hholds : ∀ f ∈ r.fields, ∀ key v, f.find? inner = some (key, v) → f.shape.errors v = [] →
      ∃ c, (f, c) ∈ declared ∧ c.Holds v) :
    RecordHolds declared (extrasOf r inner) (.map inner) :=
  ⟨inner, rfl, fun _ _ hw => holdsAt_of_get? hfits hholds hw⟩

/-- A mapping that fits the part about a schema is held by it. -/
theorem recordHolds_openApi {inner : Fields}
    (hfits : openApiShape.errors LeafShape.errors (.map inner) = []) :
    RecordHolds [(openApiSchema, .text (textOf openApiSchema inner))]
      (extrasOf openApiShape inner) (.map inner) := by
  refine recordHolds_of_fits hfits fun f hf key v hfind hfield => ?_
  obtain rfl := List.mem_singleton.mp hf
  exact ⟨_, List.mem_singleton_self _, holds_textOf hfind hfield⟩

/-- A mapping that fits a reference to a toolset is held by it. -/
theorem recordHolds_reference {inner : Fields}
    (hfits : referenceShape.errors LeafShape.errors (.map inner) = []) :
    RecordHolds [(toolset, .text (textOf toolset inner)),
        (referenceToolIds, .texts (textsOf referenceToolIds inner))]
      (extrasOf referenceShape inner) (.map inner) := by
  refine recordHolds_of_fits hfits fun f hf key v hfind hfield => ?_
  rcases List.mem_cons.mp hf with rfl | hf
  · exact ⟨_, List.mem_cons_self, holds_textOf hfind hfield⟩
  · obtain rfl := List.mem_singleton.mp hf
    exact ⟨_, List.mem_cons_of_mem _ (List.mem_singleton_self _), holds_textsOf hfind hfield⟩

/-- A value that fits a string or a reference to a toolset is held by an entry. -/
theorem exists_toolsetEntry? (hfits : Shape.mixedErrors referenceShape v = []) :
    ∃ entry, toolsetEntry? v = some entry ∧ entry.Holds v := by
  unfold Shape.mixedErrors at hfits
  dsimp only at hfits
  split at hfits
  · rename_i hstr
    cases v with
    | str s => exact ⟨.name s, rfl, rfl⟩
    | _ => cases hstr
  · -- the errors of a reference are among those of the value
    have herrors : referenceShape.errors LeafShape.errors v = [] := by
      split at hfits
      · exact List.isEmpty_iff.mp ‹_›
      · exact List.map_eq_nil_iff.mp (List.append_eq_nil_iff.mp hfits).2
    cases v with
    | map inner => exact ⟨.reference _, rfl, recordHolds_reference herrors⟩
    | _ => cases herrors

/-- The entries of a list that fits strings and records are held by the entries of the list. -/
theorem forall₂_toolsetEntry? {xs : List Value}
    (hfits : Shape.elementErrors (Shape.mixedErrors referenceShape) xs = []) :
    List.Forall₂ ToolsetEntry.Holds (xs.filterMap toolsetEntry?) xs := by
  have helements := Cleaning.elementErrors_eq_nil.mp hfits
  clear hfits
  induction xs with
  | nil => exact .nil
  | cons x xs ih =>
    obtain ⟨hx, hxs⟩ := List.forall_mem_cons.mp helements
    obtain ⟨entry, hentry, hholds⟩ := exists_toolsetEntry? hx
    rw [List.filterMap_cons_some hentry]
    exact .cons hholds (ih hxs)

/-- What the field of a manifest holds that is made of a mapping. -/
def contentOf (f : FieldShape Shape) (fields : Fields) : Content :=
  match f.shape with
  | .leaf .text => .leaf (.text (textOf f fields))
  | .leaf .texts => .leaf (.texts (textsOf f fields))
  | .mapping => .mapping ((f.find? fields).bind fun e => e.2.map?.map textKeyed)
  | .record _ => .openApi ((f.find? fields).bind fun e => e.2.map?.map fun inner =>
      { openApiSchema := textOf openApiSchema inner, extras := extrasOf openApiShape inner })
  | .mixed _ => .toolsets ((f.find? fields).bind fun e =>
      (Shape.elements? e.2).map fun xs => xs.filterMap toolsetEntry?)

/-- The shapes that the fields of manifests have. -/
theorem Kind.shape_cases (k : Kind) {f : FieldShape Shape} (hf : f ∈ k.shape.fields) :
    f.shape = .leaf .text ∨ f.shape = .leaf .texts ∨ f.shape = .mapping ∨
      f.shape = .record openApiShape ∨ f.shape = .mixed referenceShape := by
  have hshapes : ∀ f ∈ k.shape.fields, f.shape = .leaf .text ∨ f.shape = .leaf .texts ∨
      f.shape = .mapping ∨ f.shape = .record openApiShape ∨ f.shape = .mixed referenceShape := by
    cases k <;> decide
  exact hshapes f hf

/-- A value that fits the field of a manifest is held by the field. -/
theorem holds_contentOf {k : Kind} {f : FieldShape Shape} (hf : f ∈ k.shape.fields)
    (hfind : f.find? fields = some (key, v)) (hfits : f.shape.errors v = []) :
    (contentOf f fields).Holds v := by
  unfold contentOf
  rcases k.shape_cases hf with hshape | hshape | hshape | hshape | hshape <;>
    rw [hshape] at hfits ⊢
  · exact holds_textOf hfind hfits
  · exact holds_textsOf hfind hfits
  · -- a mapping that is kept under the texts of its keys
    rw [hfind]
    cases v with
    | null => rfl
    | map es => exact ⟨es, rfl, rfl⟩
    | _ => cases hfits
  · -- the part about a schema
    rw [hfind]
    cases v with
    | null => rfl
    | map inner => exact recordHolds_openApi hfits
    | _ => cases hfits
  · -- the toolsets of an agent, in a sequence of any kind
    rw [hfind]
    cases v with
    | null => rfl
    | list xs | tuple xs | set xs => exact ⟨xs, rfl, forall₂_toolsetEntry? hfits⟩
    | _ => cases hfits

end Holds

namespace Kind

variable (k : Kind)

/-- The fields of a manifest that is made of a mapping, with what they hold. -/
theorem declared_build (fields : Fields) :
    k.declared (k.build fields) = k.shape.fields.map fun f => (f, contentOf f fields) := by
  cases k <;> rfl

/-- The other keys of a manifest that is made of a mapping. -/
theorem extras_build (fields : Fields) : k.extras (k.build fields) = extrasOf k.shape fields := by
  cases k <;> rfl

/-- The fields of a manifest have spellings of their own. -/
theorem spelled_shape : k.shape.Spelled := by
  cases k <;> decide +kernel

/-- A mapping whose keys are strings is loaded as a manifest of any kind, if there is room for copying
it. The manifest holds the values of all keys that no issue names, and an issue names a key whose
value does not fit; of a list of strings the strings are held, and one issue is about each other
element. There is no issue exactly if the mapping fits, and what is left is loaded as the same
manifest without an issue. A mapping that is nested too deep to be copied is not loaded. -/
theorem exists_loads {fields : Fields} (h : fields.HasStringKeys) (room : ℕ) :
    (fields.copyCalls ≤ room →
      ∃ record issues, k.load fields room = .ok (record, issues) ∧ k.Loads fields record issues) ∧
    (room < fields.copyCalls → k.load fields room = .error (.tooDeep .object)) := by
  refine ⟨fun hroom => ?_, load_eq_tooDeep⟩
  obtain ⟨⟨clean, issues⟩, hclean⟩ := Cleaning.exists_cleanFrom (r := k.shape) h []
  have hclean : Cleaning.clean k.shape fields = .ok (clean, issues) := hclean
  obtain ⟨⟨hkept, hmisfit⟩, hcheck⟩ := Cleaning.explains_clean k.spelled_shape h hclean
  refine ⟨k.build clean, issues, load_eq_ok.mpr ⟨hroom, clean, hclean, rfl⟩, ?_, hmisfit, ?_, ?_, ?_⟩
  · -- the value is that of the mapping that is left, and all of its values fit
    intro key v hv hunnamed
    rw [declared_build, extras_build]
    refine holdsAt_of_get? hcheck (fun f hf key v hfind hfits => ?_) ((hkept key hunnamed).trans hv)
    exact ⟨_, List.mem_map_of_mem hf, holds_contentOf hf hfind hfits⟩
  · -- the list that is left holds the strings among the elements
    intro f hf hshape key xs hfind
    obtain ⟨hfound, hissues⟩ :=
      Cleaning.find?_clean_texts k.spelled_shape h hclean hf hshape hfind
    refine ⟨?_, hissues⟩
    have hcontent : contentOf f clean = .leaf (.texts (some (xs.filterMap Value.str?))) := by
      unfold contentOf
      rw [hshape]
      simp only [textsOf, hfound, Option.bind_some, Shape.elements?, Option.map_some,
        filterMap_filter_isStr]
    rw [declared_build, ← hcontent]
    exact List.mem_map_of_mem hf
  · constructor
    · rintro rfl
      exact (Cleaning.clean_eq_ok_nil.mp hclean).1
    · intro hfits
      have hnil : Cleaning.clean k.shape fields = .ok (fields, []) :=
        Cleaning.clean_eq_ok_nil.mpr ⟨hfits, rfl⟩
      rw [hclean] at hnil
      cases hnil
      rfl
  · -- all values that are left fit, so that nothing more is dropped
    refine ⟨clean, hclean, fun room hroom => load_eq_ok_nil.mpr ⟨?_, hcheck, rfl⟩⟩
    exact (Cleaning.copyCalls_clean_le hclean).trans hroom

section Desk

/-- An agent's mapping with a name that does not fit in the spelling that wins, and lists with
elements that do not fit. -/
def desk : Fields :=
  [(.str "displayName", .int 7), (.str "display_name", .str "Desk"),
   (.str "childAgents", .list [.str "north", .int 1, .str "south", .null]),
   (.str "toolsets", .list [.map [(.str "toolset", .str "books"),
     (.str "toolIds", .list [.str "lend", .bool true])], .int 9]),
   (.str "icon", .null)]

/-- An agent's mapping with lists inside each other. -/
def nested (depth : ℕ) : Fields :=
  [(.str "icon", (fun v => .list [v])^[depth] .null)]

theorem copyCalls_nested (depth : ℕ) : (nested depth).copyCalls = 2 * depth + 4 := by
  have hvalue : (((fun v : Value => .list [v])^[depth]) .null).copyCalls = 2 * depth + 2 := by
    induction depth with
    | zero => rfl
    | succ depth ih =>
      rw [Function.iterate_succ_apply', Value.copyCalls, Value.copyCallsAll, ih, Value.copyCallsAll]
      omega
  rw [nested, Fields.copyCalls, Value.copyCalls, Value.copyCallsEntries, hvalue]
  rw [Value.copyCalls, Value.copyCallsEntries]
  · omega
  all_goals simp

/-- The agent that is loaded from the first mapping has two child agents left; the second one is
nested too deep. -/
theorem exists_loads_desk :
    (desk.HasStringKeys ∧ desk.copyCalls ≤ callRoom ∧
      ∃ record issues, Kind.agent.load desk = .ok (record, issues) ∧
        Kind.agent.Loads desk record issues ∧
        (childAgents, Content.leaf (.texts (some ["north", "south"]))) ∈
          Kind.agent.declared record ∧
        issues.filter (fun i => i.field == "childAgents") =
          [⟨"childAgents", "childAgents.1", "Input should be a valid string"⟩,
           ⟨"childAgents", "childAgents.3", "Input should be a valid string"⟩]) ∧
    (nested 700).HasStringKeys ∧ callRoom < (nested 700).copyCalls ∧
      Kind.agent.load (nested 700) = .error (.tooDeep .object) := by
  have h : desk.HasStringKeys := by
    unfold Fields.HasStringKeys
    decide
  have hroom : desk.copyCalls ≤ callRoom := by decide
  obtain ⟨record, issues, hload, hloads⟩ := (Kind.agent.exists_loads h callRoom).1 hroom
  obtain ⟨hheld, hissues⟩ := hloads.texts childAgents (.tail _ (.tail _ (.head _))) rfl "childAgents"
    [.str "north", .int 1, .str "south", .null] rfl
  have hnested : (nested 700).HasStringKeys := fun e he => by
    obtain rfl := List.mem_singleton.mp he
    rfl
  have hdeep : callRoom < (nested 700).copyCalls := by
    rw [copyCalls_nested]
    decide
  exact ⟨⟨h, hroom, record, issues, hload, hloads, hheld, hissues⟩,
    hnested, hdeep, (Kind.agent.exists_loads hnested callRoom).2 hdeep⟩

end Desk

end Kind

end Manifest

end AgentPackage
