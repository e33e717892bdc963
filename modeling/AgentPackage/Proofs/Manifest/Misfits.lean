import AgentPackage.Proofs.Manifest.Records
import Mathlib

/-!
# Misfits

What fits where in a manifest. A place is the manifest itself, one of its fields, or an element of a
list in a field; a way leads from a value at a place to a value at another place, and to a misfit if
that value does not fit there. The text of a way tells where it leads, as no field has a dot in its
spelling.

## Main definitions

* `Slot`: a place inside a manifest;
* `Slot.Fits`: a value fits a place;
* `Slot.at?`: the place that a way leads to;
* `Slot.MisfitAt`: a way leads from a value to one that does not fit its place;
* `Slot.Dotless`: no field at a place or inside it has a dot in its spelling.

## Main results

* `Part.dotted_injective`: ways that lead somewhere in a value are told apart by their texts;
* `Slot.Dotless.of_at?`: the ways inside a manifest hold no dots.
-/

namespace AgentPackage

/-- A value fits a field of a record inside a manifest. -/
def LeafShape.Fits : LeafShape → Value → Prop
  | .text, v => v = .null ∨ v.isStr = true
  | .texts, v => v = .null ∨ ∃ xs, v = .list xs ∧ ∀ x ∈ xs, x.isStr = true

/-- A value is a mapping that fits a record inside a manifest: what is found for its fields fits
them. -/
def RecordShape.Fits (r : RecordShape LeafShape) (v : Value) : Prop :=
  ∃ inner, v = .map inner ∧
    ∀ f ∈ r.fields, ∀ key w, f.find? inner = some (key, w) → f.shape.Fits w

/-- A value fits a field of a manifest. -/
def Shape.Fits : Shape → Value → Prop
  | .leaf l, v => l.Fits v
  | .mapping, v => v = .null ∨ v.map?.isSome = true
  | .record r, v => v = .null ∨ r.Fits v
  | .mixed r, v => v = .null ∨ ∃ xs, v = .list xs ∧ ∀ x ∈ xs, x.isStr = true ∨ r.Fits x

/-- The field of a record that has a key for one of its spellings. -/
def RecordShape.field? {α : Type} (r : RecordShape α) (key : String) : Option (FieldShape α) :=
  r.fields.find? fun f => f.key == key || f.otherKey == key

theorem RecordShape.Spelled.field?_eq_some {α : Type} {r : RecordShape α} (hr : r.Spelled)
    {f : FieldShape α} (hf : f ∈ r.fields) {key : String} (hkey : f.key = key ∨ f.otherKey = key) :
    r.field? key = some f :=
  hr.find?_fields hf hkey

/-- A place inside a manifest. -/
inductive Slot where
  /-- That of the manifest. -/
  | manifest (r : RecordShape Shape)
  /-- A field. -/
  | field (s : Shape)
  /-- An element of a list of strings. -/
  | text
  /-- An element of a list of strings and records. -/
  | entry (r : RecordShape LeafShape)

namespace Slot

/-- A value fits a place. -/
def Fits : Slot → Value → Prop
  | .manifest r, v => ∃ fields, v = .map fields ∧
      ∀ f ∈ r.fields, ∀ key w, f.find? fields = some (key, w) → f.shape.Fits w
  | .field s, v => s.Fits v
  | .text, v => v.isStr = true
  | .entry r, v => v.isStr = true ∨ r.Fits v

/-- The place one step further inside, if there is one. -/
def step? : Slot → Part → Option Slot
  | .manifest r, .key k => (r.field? k).map fun f => .field f.shape
  | .field (.leaf .texts), .index _ => some .text
  | .field (.record r), .key k => (r.field? k).map fun f => .field (.leaf f.shape)
  | .field (.mixed r), .index _ => some (.entry r)
  | .entry r, .key k => (r.field? k).map fun f => .field (.leaf f.shape)
  | _, _ => none

/-- The place that a way leads to. -/
def at? : Slot → List Part → Option Slot
  | p, [] => some p
  | p, part :: rest => (p.step? part).bind fun q => q.at? rest

/-- A way leads from a value to one that does not fit its place. -/
def MisfitAt (p : Slot) (v : Value) (path : List Part) : Prop :=
  ∃ q w, p.at? path = some q ∧ v.at? path = some w ∧ ¬ q.Fits w

variable {p q : Slot} {v : Value} {path : List Part}

theorem misfitAt_nil (h : ¬ p.Fits v) : p.MisfitAt v [] :=
  ⟨p, v, rfl, rfl, h⟩

theorem MisfitAt.index {xs : List Value} {i : ℕ} (hx : xs[i]? = some v)
    (hstep : p.step? (.index i) = some q) (h : q.MisfitAt v path) :
    p.MisfitAt (.list xs) (.index i :: path) := by
  obtain ⟨place, w, hplace, hw, hmisfit⟩ := h
  refine ⟨place, w, ?_, ?_, hmisfit⟩
  · rw [at?, hstep, Option.bind_some, hplace]
  · rw [Value.at?, hx, Option.bind_some, hw]

theorem MisfitAt.key {es : Fields} {k : String} (hv : es.get? k = some v)
    (hstep : p.step? (.key k) = some q) (h : q.MisfitAt v path) :
    p.MisfitAt (.map es) (.key k :: path) := by
  obtain ⟨place, w, hplace, hw, hmisfit⟩ := h
  refine ⟨place, w, ?_, ?_, hmisfit⟩
  · rw [at?, hstep, Option.bind_some, hplace]
  · rw [Value.at?, hv, Option.bind_some, hw]

end Slot

section Texts

/-- The text of a step holds no dot. -/
def Part.Dotless (part : Part) : Prop :=
  '.' ∉ part.text.toList

/-- An index is told by its digits. -/
theorem Part.dotless_index (i : ℕ) : (Part.index i).Dotless := by
  intro hdot
  rw [Part.text, Nat.toString_eq_repr, Nat.toList_repr] at hdot
  cases Nat.isDigit_of_mem_toDigits (by decide) (by decide) hdot

/-- Ways that lead somewhere in a value are told apart by the texts of their steps: at a list they go
on with an index, and at a mapping with a key. -/
theorem Part.map_text_injective {v : Value} {p q : List Part} (hp : (v.at? p).isSome)
    (hq : (v.at? q).isSome) (h : p.map Part.text = q.map Part.text) : p = q := by
  induction p generalizing v q with
  | nil =>
    rw [List.map_nil] at h
    exact (List.map_eq_nil_iff.mp h.symm).symm
  | cons part p ih =>
    cases q with
    | nil => cases h
    | cons part' q =>
      obtain ⟨htext, hrest⟩ := List.cons.inj h
      cases v with
      | list xs =>
        cases part with
        | key k => cases hp
        | index i =>
          cases part' with
          | key k => cases hq
          | index j =>
            obtain rfl : i = j := Nat.repr_inj.mp htext
            cases hx : xs[i]? with
            | none => simp [Value.at?, hx] at hp
            | some x =>
              rw [Value.at?, hx, Option.bind_some] at hp hq
              rw [ih hp hq hrest]
      | map es =>
        cases part with
        | index i => cases hp
        | key k =>
          cases part' with
          | index i => cases hq
          | key k' =>
            obtain rfl : k = k' := htext
            cases hv : Fields.get? es k with
            | none => simp [Value.at?, hv] at hp
            | some v =>
              rw [Value.at?, hv, Option.bind_some] at hp hq
              rw [ih hp hq hrest]
      | _ => cases part <;> cases hp

/-- Ways that lead somewhere in a value are told apart by their texts, if no key holds a dot. -/
theorem Part.dotted_injective {v : Value} {p q : List Part} (hp : (v.at? p).isSome)
    (hq : (v.at? q).isSome) (hp' : ∀ part ∈ p, part.Dotless) (hq' : ∀ part ∈ q, part.Dotless)
    (hpne : p ≠ []) (hqne : q ≠ []) (h : Part.dotted p = Part.dotted q) : p = q := by
  have hsplit : ∀ r : List Part, r ≠ [] → (∀ part ∈ r, part.Dotless) →
      (Part.dotted r).toList.splitOn '.' = (r.map Part.text).map String.toList := by
    intro r hne hr
    rw [Part.dotted, String.toList_intercalate]
    refine List.splitOn_intercalate '.' ?_ (by simpa using hne)
    simpa [Part.Dotless] using hr
  refine Part.map_text_injective hp hq ?_
  have hpq := hsplit p hpne hp'
  rw [h, hsplit q hqne hq'] at hpq
  exact List.map_injective_iff.mpr (fun _ _ => String.toList_injective) hpq.symm

end Texts

section Dotless

/-- The spellings of the fields of a record hold no dots. -/
def RecordShape.Dotless {α : Type} (r : RecordShape α) : Prop :=
  ∀ f ∈ r.fields, '.' ∉ f.key.toList ∧ '.' ∉ f.otherKey.toList

instance {α : Type} (r : RecordShape α) : Decidable r.Dotless :=
  inferInstanceAs (Decidable (∀ f ∈ r.fields, '.' ∉ f.key.toList ∧ '.' ∉ f.otherKey.toList))

/-- The spellings of the fields of a record in the shape hold no dots. -/
def Shape.Dotless : Shape → Prop
  | .record r | .mixed r => r.Dotless
  | _ => True

instance : DecidablePred Shape.Dotless
  | .leaf _ => inferInstanceAs (Decidable True)
  | .mapping => inferInstanceAs (Decidable True)
  | .record r => inferInstanceAs (Decidable r.Dotless)
  | .mixed r => inferInstanceAs (Decidable r.Dotless)

/-- The spellings of the fields at a place and inside it hold no dots. -/
def Slot.Dotless : Slot → Prop
  | .manifest r => r.Dotless ∧ ∀ f ∈ r.fields, f.shape.Dotless
  | .field s => s.Dotless
  | .text => True
  | .entry r => r.Dotless

/-- A key that is a spelling of a field holds no dot. -/
theorem RecordShape.Dotless.of_field? {α : Type} {r : RecordShape α} (h : r.Dotless) {key : String}
    {f : FieldShape α} (hf : r.field? key = some f) : f ∈ r.fields ∧ (Part.key key).Dotless := by
  have hmem : f ∈ r.fields := List.mem_of_find?_eq_some hf
  have hkey := List.find?_some hf
  rw [Bool.or_eq_true, beq_iff_eq, beq_iff_eq] at hkey
  refine ⟨hmem, ?_⟩
  rcases hkey with rfl | rfl
  · exact (h f hmem).1
  · exact (h f hmem).2

/-- A step from a place without dots holds none, and leads to another such place. -/
theorem Slot.Dotless.step {p q : Slot} {part : Part} (h : p.Dotless)
    (hstep : p.step? part = some q) : q.Dotless ∧ part.Dotless := by
  unfold Slot.step? at hstep
  split at hstep
  · obtain ⟨f, hf, rfl⟩ := Option.map_eq_some_iff.mp hstep
    obtain ⟨hmem, hkey⟩ := h.1.of_field? hf
    exact ⟨h.2 f hmem, hkey⟩
  · cases hstep
    exact ⟨trivial, Part.dotless_index _⟩
  · obtain ⟨f, hf, rfl⟩ := Option.map_eq_some_iff.mp hstep
    exact ⟨trivial, (RecordShape.Dotless.of_field? h hf).2⟩
  · cases hstep
    exact ⟨h, Part.dotless_index _⟩
  · obtain ⟨f, hf, rfl⟩ := Option.map_eq_some_iff.mp hstep
    exact ⟨trivial, (RecordShape.Dotless.of_field? h hf).2⟩
  · cases hstep

/-- A way inside a place without dots holds none. -/
theorem Slot.Dotless.of_at? {p q : Slot} {path : List Part} (h : p.Dotless)
    (hpath : p.at? path = some q) : ∀ part ∈ path, part.Dotless := by
  induction path generalizing p with
  | nil => exact List.forall_mem_nil _
  | cons part path ih =>
    obtain ⟨next, hstep, hrest⟩ := Option.bind_eq_some_iff.mp hpath
    obtain ⟨hnext, hpart⟩ := h.step hstep
    exact List.forall_mem_cons.mpr ⟨hpart, ih hnext hrest⟩

/-- The spellings of the fields of manifests hold no dots. -/
theorem Manifest.Kind.dotless (k : Kind) : (Slot.manifest k.shape).Dotless := by
  unfold Slot.Dotless
  cases k <;> decide +kernel

end Dotless

end AgentPackage
