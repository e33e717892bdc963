import AgentPackage.Document
import AgentPackage.Proofs.Except
import AgentPackage.Proofs.Manifest.Dropping

/-!
# Values of JSON

The values that JSON texts have: no dates, no binary data, no sequences but lists, and strings for
keys at all depths. What is left of such a value when parts of it are dropped is one again.

## Main definitions

* `Value.IsJson`: a value is one that a JSON text can have.

## Main results

* `Json.isJson_of_read`: the value of a JSON text is one;
* `Json.hasStringKeys_of_readDocument`: the keys of a JSON document are strings;
* `Value.IsJson.prune`: dropping parts of a value keeps to such values.
-/

namespace AgentPackage

/-- A value is one that a JSON text can have. -/
inductive Value.IsJson : Value → Prop
  /-- The absent value. -/
  | null : IsJson .null
  /-- A truth value. -/
  | bool (b : Bool) : IsJson (.bool b)
  /-- An integer. -/
  | int (i : Int) : IsJson (.int i)
  /-- A floating-point number. -/
  | float (x : Float) : IsJson (.float x)
  /-- A string. -/
  | str (s : String) : IsJson (.str s)
  /-- An array of such values. -/
  | list {xs : List Value} (h : ∀ x ∈ xs, IsJson x) : IsJson (.list xs)
  /-- An object of such values, whose keys are strings. -/
  | map {es : Fields} (hkeys : es.HasStringKeys) (h : ∀ e ∈ es, IsJson e.2) : IsJson (.map es)

namespace Value.IsJson

variable {xs : List Value} {es : Fields} {targets : List (List Part)}

theorem hasStringKeys (h : IsJson (.map es)) : es.HasStringKeys := by
  cases h with
  | map hkeys _ => exact hkeys

theorem of_mem (h : IsJson (.list xs)) {x : Value} (hx : x ∈ xs) : x.IsJson := by
  cases h with
  | list h => exact h x hx

theorem of_mem_entries (h : IsJson (.map es)) {e : Value × Value} (he : e ∈ es) : e.2.IsJson := by
  cases h with
  | map _ h => exact h e he

/-- The value of a key of an object is one of JSON. -/
theorem of_get? (h : IsJson (.map es)) {key : String} {v : Value}
    (hv : Fields.get? es key = some v) : v.IsJson := by
  obtain ⟨e, he, rfl⟩ := Option.map_eq_some_iff.mp hv
  exact h.of_mem_entries (List.mem_of_find?_eq_some he)

mutual

/-- Dropping parts of a value of JSON leaves one. -/
theorem prune (targets : List (List Part)) : ∀ {v : Value}, v.IsJson → (v.prune targets).IsJson
  | .list _, h => .list (pruneItems targets 0 fun _ hx => h.of_mem hx)
  | .map _, h =>
    .map (Cleaning.hasStringKeys_pruneEntries h.hasStringKeys targets)
      (pruneEntries targets fun _ he => h.of_mem_entries he)
  | .null, h | .bool _, h | .int _, h | .float _, h | .str _, h | .date _, h | .dateTime _, h
  | .bytes _, h | .tuple _, h | .set _, h => h

theorem pruneItems (targets : List (List Part)) (i : ℕ) : ∀ {xs : List Value},
    (∀ x ∈ xs, x.IsJson) → ∀ x ∈ Value.pruneItems targets i xs, x.IsJson
  | [], _ => List.forall_mem_nil _
  | x :: xs, h => by
    obtain ⟨hx, hxs⟩ := List.forall_mem_cons.mp h
    rw [Value.pruneItems]
    split
    · exact pruneItems targets (i + 1) hxs
    · exact List.forall_mem_cons.mpr ⟨prune _ hx, pruneItems targets (i + 1) hxs⟩

theorem pruneEntries (targets : List (List Part)) : ∀ {es : List (Value × Value)},
    (∀ e ∈ es, e.2.IsJson) → ∀ e ∈ Value.pruneEntries targets es, e.2.IsJson
  | [], _ => List.forall_mem_nil _
  | (.str key, v) :: es, h => by
    obtain ⟨hv, hes⟩ := List.forall_mem_cons.mp h
    rw [Value.pruneEntries]
    split
    · exact pruneEntries targets hes
    · exact List.forall_mem_cons.mpr ⟨prune _ hv, pruneEntries targets hes⟩
  | (.null, v) :: es, h | (.bool _, v) :: es, h | (.int _, v) :: es, h | (.float _, v) :: es, h
  | (.date _, v) :: es, h | (.dateTime _, v) :: es, h | (.bytes _, v) :: es, h
  | (.list _, v) :: es, h | (.tuple _, v) :: es, h | (.set _, v) :: es, h
  | (.map _, v) :: es, h => by
    obtain ⟨hv, hes⟩ := List.forall_mem_cons.mp h
    rw [Value.pruneEntries]
    · exact List.forall_mem_cons.mpr ⟨hv, pruneEntries targets hes⟩
    · simp

end

end Value.IsJson

attribute [simp] Value.IsJson.null Value.IsJson.bool Value.IsJson.int Value.IsJson.float
  Value.IsJson.str

/-- An array is a value of JSON if its elements are. -/
@[simp]
theorem Value.isJson_list {xs : List Value} : (Value.list xs).IsJson ↔ ∀ x ∈ xs, x.IsJson :=
  ⟨fun h _ hx => h.of_mem hx, .list⟩

/-- An object without entries is a value of JSON. -/
@[simp]
theorem Value.isJson_nil : (Value.map []).IsJson :=
  .map (List.forall_mem_nil _) (List.forall_mem_nil _)

/-- An object is a value of JSON if its first entry fits one and the others make one. -/
@[simp]
theorem Value.isJson_cons {e : Value × Value} {es : Fields} :
    (Value.map (e :: es)).IsJson ↔ e.1.isStr = true ∧ e.2.IsJson ∧ (Value.map es).IsJson := by
  constructor
  · intro h
    obtain ⟨hkey, hkeys⟩ := List.forall_mem_cons.mp h.hasStringKeys
    exact ⟨hkey, h.of_mem_entries List.mem_cons_self,
      .map hkeys fun e he => h.of_mem_entries (List.mem_cons_of_mem _ he)⟩
  · rintro ⟨hkey, he, hes⟩
    exact .map (List.forall_mem_cons.mpr ⟨hkey, hes.hasStringKeys⟩)
      (List.forall_mem_cons.mpr ⟨he, fun e he => hes.of_mem_entries he⟩)

namespace Json

open Except Value

variable {c c' : Cursor}

/-- Storing a value of JSON under a string in an object gives an object. -/
theorem isJson_insert {fields : Fields} (h : (Value.map fields).IsJson) (key : String) {v : Value}
    (hv : v.IsJson) : (Value.map (Fields.insert (.str key) v fields)).IsJson := by
  induction fields with
  | nil => exact isJson_cons.mpr ⟨rfl, hv, h⟩
  | cons e es ih =>
    obtain ⟨hkey, he, hes⟩ := isJson_cons.mp h
    unfold Fields.insert
    split
    · exact isJson_cons.mpr ⟨hkey, hv, hes⟩
    · exact isJson_cons.mpr ⟨hkey, he, ih hes⟩

/-- The entries of an object, stored one after another, make an object. -/
theorem isJson_ofList {entries : Fields} (h : (Value.map entries).IsJson) :
    (Value.map (Fields.ofList entries)).IsJson := by
  unfold Fields.ofList
  -- for all fields that are there before
  have key : ∀ fields : Fields, (Value.map fields).IsJson → (Value.map
      (entries.foldl (fun fields e => Fields.insert e.1 e.2 fields) fields)).IsJson := by
    induction entries with
    | nil => exact fun fields hfields => hfields
    | cons e es ih =>
      intro fields hfields
      obtain ⟨hkey, he, hes⟩ := isJson_cons.mp h
      obtain ⟨key, v⟩ := e
      cases key with
      | str key => exact ih hes _ (isJson_insert hfields key he)
      | _ => cases hkey
  exact key [] isJson_nil

/-- A literal or a number is a value of JSON. -/
theorem isJson_of_readAtom {v : Value} (h : readAtom c = .ok (v, c')) : v.IsJson := by
  unfold readAtom at h
  split at h
  · rename_i word v hfind
    cases h
    have hmem := List.mem_of_find?_eq_some hfind
    simp only [literals, List.mem_cons, Prod.mk.injEq, List.not_mem_nil, or_false] at hmem
    rcases hmem with ⟨-, rfl⟩ | ⟨-, rfl⟩ | ⟨-, rfl⟩ | ⟨-, rfl⟩ | ⟨-, rfl⟩ | ⟨-, rfl⟩ <;> constructor
  · split at h
    · obtain ⟨v, hvalue, h⟩ := bind_eq_ok.mp h
      cases pure_eq_ok.mp h
      unfold Number.value at hvalue
      split at hvalue
      · split at hvalue <;> cases hvalue
        exact .int _
      · cases hvalue
        exact .float _
    · cases h

/-- What is read behind a bracket is read with less room. -/
theorem exists_of_enter_eq_ok {α : Type} {call : Call} {room : ℕ} {inside : ℕ → Except Error α}
    {a : α} (h : enter call room inside = .ok a) : ∃ room, inside room = .ok a := by
  cases room with
  | zero => cases h
  | succ room => exact ⟨room, h⟩

/-- What is read at a cursor are values of JSON. -/
theorem isJson_of_readValue (budget : ℕ) :
    (∀ room c c' v, readValue budget room c = .ok (v, c') → v.IsJson) ∧
      (∀ room c c' xs, readElements budget room c = .ok (xs, c') → ∀ x ∈ xs, x.IsJson) ∧
        ∀ room c c' es, readEntries budget room c = .ok (es, c') → (Value.map es).IsJson := by
  -- the three readers call each other with a smaller budget
  induction budget with
  | zero =>
    exact ⟨fun _ _ _ _ h => (nomatch h), fun _ _ _ _ h => (nomatch h), fun _ _ _ _ h => (nomatch h)⟩
  | succ budget ih =>
    obtain ⟨hvalue, helements, hentries⟩ := ih
    refine ⟨fun room c c' v h => ?_, fun room c c' xs h => ?_, fun room c c' es h => ?_⟩
    · -- a string, an array, an object, or a literal or number
      unfold readValue at h
      split at h
      · obtain ⟨⟨s, c₁⟩, -, h⟩ := bind_eq_ok.mp h
        cases pure_eq_ok.mp h
        exact .str s
      · obtain ⟨room, h⟩ := exists_of_enter_eq_ok h
        dsimp only at h
        split at h
        · cases h
          exact .list (List.forall_mem_nil _)
        · obtain ⟨⟨xs, c₂⟩, hxs, h⟩ := bind_eq_ok.mp h
          cases pure_eq_ok.mp h
          exact .list (helements _ _ _ _ hxs)
      · obtain ⟨room, h⟩ := exists_of_enter_eq_ok h
        dsimp only at h
        split at h
        · cases h
          exact isJson_nil
        · obtain ⟨⟨es, c₂⟩, hes, h⟩ := bind_eq_ok.mp h
          cases pure_eq_ok.mp h
          exact isJson_ofList (hentries _ _ _ _ hes)
      · exact isJson_of_readAtom h
    · unfold readElements at h
      obtain ⟨⟨v, c₁⟩, hv, h⟩ := bind_eq_ok.mp h
      dsimp only at h
      split at h
      · cases pure_eq_ok.mp h
        exact List.forall_mem_singleton.mpr (hvalue _ _ _ _ hv)
      · obtain ⟨⟨vs, c₃⟩, hvs, h⟩ := bind_eq_ok.mp h
        cases pure_eq_ok.mp h
        exact List.forall_mem_cons.mpr ⟨hvalue _ _ _ _ hv, helements _ _ _ _ hvs⟩
      · cases h
    · unfold readEntries at h
      split at h
      · obtain ⟨⟨key, c₁⟩, -, h⟩ := bind_eq_ok.mp h
        dsimp only at h
        split at h
        · obtain ⟨⟨v, c₃⟩, hv, h⟩ := bind_eq_ok.mp h
          dsimp only at h
          split at h
          · cases pure_eq_ok.mp h
            exact isJson_cons.mpr ⟨rfl, hvalue _ _ _ _ hv, isJson_nil⟩
          · obtain ⟨⟨es, c₅⟩, hes, h⟩ := bind_eq_ok.mp h
            cases pure_eq_ok.mp h
            exact isJson_cons.mpr ⟨rfl, hvalue _ _ _ _ hv, hentries _ _ _ _ hes⟩
          · cases h
        · cases h
      · cases h

/-- The value of a JSON text is one of JSON. -/
theorem isJson_of_read {text : List Char} {v : Value} (h : read text = .ok v) : v.IsJson := by
  have hwhole : ∀ text, read.readWhole text = .ok v → v.IsJson := by
    intro text h
    unfold read.readWhole at h
    obtain ⟨⟨w, c⟩, hread, h⟩ := bind_eq_ok.mp h
    dsimp only at h
    split at h
    · cases pure_eq_ok.mp h
      exact (isJson_of_readValue _).1 _ _ _ _ hread
    · cases h
  unfold read at h
  split at h
  · split at h
    · cases h
    · exact hwhole _ h
  · exact hwhole _ h

/-- The keys of the root of a JSON document are strings. -/
theorem hasStringKeys_of_readDocument {t : FileTree} {p : Path} {fields : Fields}
    {text : List Char} (h : Document.read t .json p = .ok (.record fields text)) :
    fields.HasStringKeys := by
  unfold Document.read at h
  split at h
  · cases h
  · cases h
  · cases h
  · unfold Document.ofText at h
    split at h
    · cases h
    · cases h
    · rename_i hvalue
      cases h
      simp only [Document.valueOf] at hvalue
      split at hvalue <;> cases hvalue
      exact (isJson_of_read ‹_›).hasStringKeys
    · cases h

end Json

end AgentPackage
