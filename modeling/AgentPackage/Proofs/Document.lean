import AgentPackage.Document
import AgentPackage.Proofs.FileTree.Listed
import AgentPackage.Proofs.Json.Reader
import AgentPackage.Proofs.Json.Values
import AgentPackage.Proofs.Yaml.Building

/-!
# What reading a document gives

Reading a file gives a document that tells what became of it: its entries, or what is wrong. The
only reading that gives none ends at a scalar that denotes no value, or at one collection too many
inside others.

## Main definitions

* `Document.HoldsFault`: why the reading of a text breaks off;
* `Document.Denotes`: the value of a file;
* `Document.Answers`: a document tells what became of a file;
* `Document.Settles`: a reading gives such a document, or breaks off.

## Main results

* `Document.read_settles`: what reading a file gives, in a format or by its extension.
-/

namespace AgentPackage.Document

open FileTree

variable {t : FileTree} {p : Path} {format : Format} {text : List Char}

/-- Why the reading of a text in a format breaks off: a scalar denotes no value, or collections are
nested too deep. -/
def HoldsFault : Format → List Char → ScalarFault → Prop
  | .json => Json.HoldsFault
  | .yaml => Yaml.HoldsFault

/-- The file is read in a format, and its text has the value. -/
def Denotes (t : FileTree) (format? : Option Format) (p : Path) (v : Value) : Prop :=
  ∃ format text, format? = some format ∧ t.readText p p = .ok text ∧
    valueOf format text = .ok (.ok v)

/-- The document tells what became of a file that is read in a format, if it has one. -/
structure Answers (t : FileTree) (format? : Option Format) (p : Path) (d : Document) : Prop where
  /-- Either there are entries or there is an error. -/
  either : Xor (d.fields?.isSome = true) (d.error?.isSome = true)
  /-- The entries are those of the mapping that is the value. -/
  fields : ∀ fields, d.fields? = some fields ↔ Denotes t format? p (.map fields)
  /-- The root is wrong exactly if the value is no mapping. -/
  wrongRoot : d.hasWrongRoot = true ↔
    ∃ v, Denotes t format? p v ∧ ∀ fields, v ≠ .map fields

/-- The reading of a file gives a document that tells what became of it, or breaks off for a reason
that the text holds. -/
def Settles (t : FileTree) (format? : Option Format) (p : Path) (x : Except Failure Document) :
    Prop :=
  (∃ d, x = .ok d ∧ Answers t format? p d) ∨
    ∃ format text f, format? = some format ∧ t.readText p p = .ok text ∧
      HoldsFault format text f ∧ x = .error (.scalar f)

/-- The reading of a text breaks off only for a reason that the text holds. -/
theorem holdsFault_of_valueOf {f : ScalarFault} (h : valueOf format text = .error f) :
    HoldsFault format text f := by
  cases format with
  | json =>
    simp only [valueOf] at h
    split at h <;> cases h
    exact Json.holdsFault_of_read ‹_›
  | yaml =>
    simp only [valueOf] at h
    split at h <;> cases h
    exact Yaml.holdsFault_of_read ‹_›

theorem either (d : Document) : Xor (d.fields?.isSome = true) (d.error?.isSome = true) := by
  rw [fields?_isSome_eq]
  cases d.error?.isSome
  · exact .inl ⟨rfl, Bool.false_ne_true⟩
  · exact .inr ⟨rfl, Bool.false_ne_true⟩

/-- A file has at most one value. -/
theorem Denotes.unique {format? : Option Format} {v w : Value} (hv : Denotes t format? p v)
    (hw : Denotes t format? p w) : v = w := by
  obtain ⟨_, _, hformat, htext, hv⟩ := hv
  obtain ⟨_, _, hformat', htext', hw⟩ := hw
  cases hformat.symm.trans hformat'
  cases htext.symm.trans htext'
  cases hv.symm.trans hw
  rfl

/-- The value of a file that is read as JSON is one of JSON. -/
theorem Denotes.isJson {v : Value} (h : Denotes t (some .json) p v) : v.IsJson := by
  obtain ⟨_, text, hformat, -, hv⟩ := h
  cases hformat
  simp only [valueOf] at hv
  split at hv
  · cases hv
    exact Json.isJson_of_read ‹_›
  · cases hv
  · cases hv

/-- A file without a value has a document without entries and with a root that is not wrong. -/
theorem answers_of_not_denotes {format? : Option Format} {d : Document}
    (hnone : ∀ v, ¬ Denotes t format? p v) (hfields : d.fields? = none)
    (hroot : d.hasWrongRoot = false) : Answers t format? p d := by
  refine ⟨d.either, fun fields => ?_, ?_⟩
  · rw [hfields]
    exact ⟨fun h => (nomatch h), fun h => absurd h (hnone _)⟩
  · rw [hroot]
    exact ⟨fun h => (nomatch h), fun ⟨v, h, _⟩ => absurd h (hnone v)⟩

/-- A document without entries and with a root that is not wrong tells that there is no value. -/
theorem Answers.not_denotes {format? : Option Format} {d : Document} (h : Answers t format? p d)
    (hfields : d.fields? = none) (hroot : d.hasWrongRoot = false) (v : Value) :
    ¬ Denotes t format? p v := by
  -- a mapping would give entries, and any other value a wrong root
  intro hv
  by_cases hmap : ∃ fields, v = .map fields
  · obtain ⟨fields, rfl⟩ := hmap
    cases hfields.symm.trans ((h.fields fields).mpr hv)
  · cases hroot.symm.trans (h.wrongRoot.mpr ⟨v, hv, not_exists.mp hmap⟩)

/-- The document of a file that has a value holds its entries, or has a wrong root. -/
theorem answers_of_denotes {format? : Option Format} {v : Value} {d : Document}
    (hvalue : ∀ w, Denotes t format? p w ↔ w = v)
    (hfields : ∀ fields, d.fields? = some fields ↔ v = .map fields)
    (hroot : d.hasWrongRoot = true ↔ ∀ fields, v ≠ .map fields) : Answers t format? p d := by
  refine ⟨d.either, fun fields => ?_, ?_⟩
  · rw [hfields, hvalue, eq_comm]
  · rw [hroot]
    constructor
    · exact fun h => ⟨v, (hvalue v).mpr rfl, h⟩
    · rintro ⟨w, hw, h⟩
      rwa [(hvalue w).mp hw] at h

/-- The text of a file settles what becomes of it. -/
theorem ofText_settles (htext : t.readText p p = .ok text) :
    Settles t (some format) p (ofText format text) := by
  have hdenotes : ∀ v, Denotes t (some format) p v ↔ valueOf format text = .ok (.ok v) := by
    intro v
    constructor
    · rintro ⟨_, _, hformat, hread, hv⟩
      cases hformat
      cases htext.symm.trans hread
      exact hv
    · exact fun hv => ⟨format, text, rfl, htext, hv⟩
  have hunique : ∀ {v}, valueOf format text = .ok (.ok v) →
      ∀ w, Denotes t (some format) p w ↔ w = v := by
    intro v hv w
    rw [hdenotes, hv, Except.ok.injEq, Except.ok.injEq, eq_comm]
  unfold ofText
  split
  · -- the reading breaks off
    rename_i f hvalue
    exact .inr ⟨format, text, f, rfl, htext, holdsFault_of_valueOf hvalue, rfl⟩
  · -- the text has no value
    rename_i reason hvalue
    refine .inl ⟨_, rfl, answers_of_not_denotes (fun v hv => ?_) rfl rfl⟩
    cases hvalue.symm.trans ((hdenotes v).mp hv)
  · -- the value is a mapping
    rename_i entries hvalue
    refine .inl ⟨_, rfl, answers_of_denotes (hunique hvalue) (fun fields => ?_) ?_⟩
    · exact ⟨fun h => by cases h; rfl, fun h => by cases h; rfl⟩
    · exact ⟨fun h => (nomatch h), fun h => absurd rfl (h entries)⟩
  · -- the value is no mapping
    rename_i v hmap hvalue
    refine .inl ⟨_, rfl, answers_of_denotes (hunique hvalue) (fun fields => ?_) ?_⟩
    · exact ⟨fun h => (nomatch h), fun h => absurd h (hmap fields)⟩
    · exact ⟨fun _ => hmap, fun _ => rfl⟩

/-- Reading a file in a format settles what becomes of it. -/
theorem read_settles_in (hname : isNameable p = true) (format : Format) :
    Settles t (some format) p (read t format p) := by
  have hnone : ∀ fault, t.readText p p = .error fault → ∀ v, ¬ Denotes t (some format) p v := by
    rintro fault hfault v ⟨_, text, -, htext, -⟩
    cases hfault.symm.trans htext
  unfold read
  split
  · exact absurd ‹_› (readText_ne_unnameable hname)
  · exact .inl ⟨_, rfl, answers_of_not_denotes (hnone _ ‹_›) rfl rfl⟩
  · exact .inl ⟨_, rfl, answers_of_not_denotes (hnone _ ‹_›) rfl rfl⟩
  · exact ofText_settles ‹_›

/-- A file whose name has the extension of no format has no value. -/
theorem answers_unsupported (hformat : formatOf? p = none) (extension : String) :
    Answers t (formatOf? p) p (.unsupported extension) := by
  refine answers_of_not_denotes ?_ rfl rfl
  rintro v ⟨format, _, hsome, -⟩
  cases hformat.symm.trans hsome

/-- Reading a file, in a format or by the extension of its name, gives a document that has either
entries or an error, or breaks off at a scalar of its text that cannot be read or where the text is
nested too deep. -/
theorem read_settles (hname : isNameable p = true) :
    (∀ format, Settles t (some format) p (read t format p)) ∧
      Settles t (formatOf? p) p (readByExtension t p) := by
  refine ⟨read_settles_in hname, ?_⟩
  unfold readByExtension
  split
  · rename_i format hformat
    rw [hformat]
    exact read_settles_in hname format
  · exact .inl ⟨_, rfl, answers_unsupported ‹_› _⟩

section Dated

/-- A file with a date that exists, and one with a date that does not. -/
def dated : FileTree :=
  ⟨[(["some.yaml"], .file "released: 2024-12-01\n".toUTF8),
    (["none.yaml"], .file "released: 2024-13-01\n".toUTF8)]⟩

set_option maxRecDepth 10000 in
/-- The file with a date that exists has a document with entries. -/
theorem read_settles_dated :
    isNameable ⟨.root, ["some.yaml"]⟩ = true ∧
      ((∀ format, Settles dated (some format) ⟨.root, ["some.yaml"]⟩
          (read dated format ⟨.root, ["some.yaml"]⟩)) ∧
        Settles dated (formatOf? ⟨.root, ["some.yaml"]⟩) ⟨.root, ["some.yaml"]⟩
          (readByExtension dated ⟨.root, ["some.yaml"]⟩)) ∧
      ∃ d, readByExtension dated ⟨.root, ["some.yaml"]⟩ = .ok d ∧ d.fields?.isSome = true := by
  have hname : isNameable ⟨.root, ["some.yaml"]⟩ = true := by decide
  refine ⟨hname, read_settles hname, ?_⟩
  decide +kernel

set_option maxRecDepth 10000 in
/-- The file with a date that does not exist has no document. -/
theorem not_exists_read_dated :
    isNameable ⟨.root, ["none.yaml"]⟩ = true ∧
      ¬ ∃ d, readByExtension dated ⟨.root, ["none.yaml"]⟩ = .ok d := by
  decide +kernel

end Dated

section Document

variable {d : Document}

/-- A file that is read in a format has a name. -/
theorem isNameable_of_read (h : read t format p = .ok d) : isNameable p = true := by
  unfold read readText readBytes at h
  cases hname : isNameable p with
  | true => rfl
  | false =>
    rw [hname] at h
    cases h

/-- The document that reading a file in a format gives tells what became of the file. -/
theorem answers_of_read (h : read t format p = .ok d) : Answers t (some format) p d := by
  rcases read_settles_in (isNameable_of_read h) format with
    ⟨d', hd', hanswers⟩ | ⟨_, _, _, -, -, -, hfault⟩
  · cases h.symm.trans hd'
    exact hanswers
  · cases h.symm.trans hfault

/-- The document that reading a file by the extension of its name gives tells what became of the
file. -/
theorem answers_of_readByExtension (h : readByExtension t p = .ok d) :
    Answers t (formatOf? p) p d := by
  unfold readByExtension at h
  split at h
  · rename_i format hformat
    rw [hformat]
    exact answers_of_read h
  · cases h
    exact answers_unsupported ‹_› _

/-- A file that is read in a format has a name with the extension of one. -/
theorem ne_unsupported_of_read (h : read t format p = .ok d) (extension : String) :
    d ≠ .unsupported extension := by
  rintro rfl
  unfold read at h
  -- no fault of a file and no fault of a text is one of its name
  split at h
  · cases h
  · cases h
  · cases h
  · unfold ofText at h
    split at h <;> cases h

/-- What is wrong with a text that is not JSON is a problem at an offset. -/
theorem exists_describe {reason : String} (h : read t .json p = .ok (.malformed reason text)) :
    ∃ problem offset, reason = Json.Problem.describe problem text offset := by
  unfold read ofText at h
  split at h
  · cases h
  · cases h
  · cases h
  · split at h
    · cases h
    · rename_i hvalue
      cases h
      simp only [valueOf] at hvalue
      split at hvalue <;> cases hvalue
      exact ⟨_, _, rfl⟩
    · cases h
    · cases h

end Document

end AgentPackage.Document
