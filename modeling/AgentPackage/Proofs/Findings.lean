import AgentPackage.Audit.Findings
import AgentPackage.Proofs.FileTree.Listed

/-!
# Laws of findings

Findings are put together from a few parts. For each part this module says which issues it can
report (`Findings.Only`), when a package passes it (`Findings.Passes`), and what is reported when it
does not fail, so that the rules can be taken apart without unfolding how findings are kept.

## Main definitions

* `Findings.Only`, `Findings.Passes`: what is reported at most, and that nothing counts against the
  package;
* `Findings.about`: the issues about one file.

## Main results

* `passes_append`, `passes_all`, `passes_check`, `passes_when`: a package passes the whole exactly
  when it passes the parts;
* `of_passes_when_not`: what is missed where it is absent is there when a package passes;
* `passes_fieldErrors`: a manifest passes exactly when all its values fit;
* `failure_all_eq_none`, `issues_all`, `counts_all`: findings about some values without a failure;
* `forall₂_issues_all`: the issues where each value gives at most one;
* `exists_errorAt_eq`: an error about a line of a file that has a name is reported;
* `about_all`: the issues about a file that only one value has findings about.
-/

namespace AgentPackage.Findings

/-- Every issue that is reported satisfies `P`. -/
def Only (P : Issue → Prop) (f : Findings) : Prop :=
  ∀ i ∈ f.issues, P i

/-- Nothing keeps the package from passing: the rule did not fail and reports no error. -/
def Passes (f : Findings) : Prop :=
  f.failure = none ∧ f.Only fun i => i.severity ≠ .error

/-- The issues about one file, by the text of its path. -/
def about (f : Findings) (file : String) : List Issue :=
  f.issues.filter fun i => i.file == file

section Only

variable {P Q : Issue → Prop} {a b : Findings} {α : Type}

theorem Only.mono (h : a.Only P) (hPQ : ∀ i, P i → Q i) : a.Only Q :=
  fun i hi => hPQ i (h i hi)

theorem only_nothing : nothing.Only P := by
  simp [Only, nothing]

theorem only_counted (name : String) : (counted name).Only P := by
  simp [Only, counted]

theorem only_failed (f : Failure) : (failed f).Only P := by
  simp [Only, failed]

/-- The issues of an appended pair are those of the first and, unless that fails, of the second. -/
theorem mem_issues_append {i : Issue} :
    i ∈ (a ++ b).issues ↔ i ∈ a.issues ∨ (a.failure = none ∧ i ∈ b.issues) := by
  -- appending looks at the failure of the first part only
  show i ∈ (append a b).issues ↔ _
  unfold append
  cases a.failure <;> simp

/-- The issues of what goes on with a result are those for the result. -/
theorem mem_issues_check {r : Except Failure α} {next : α → Findings} {i : Issue} :
    i ∈ (check r next).issues ↔ ∃ x, r = .ok x ∧ i ∈ (next x).issues := by
  cases r <;> simp [check, failed]

/-- Findings under a condition have issues if it holds. -/
theorem mem_issues_when {c : Bool} {i : Issue} :
    i ∈ (when c a).issues ↔ c = true ∧ i ∈ a.issues := by
  cases c <;> simp [when, nothing]

/-- The only issue of an error about a line is that error. -/
theorem mem_issues_errorAt {t : FileTree} {code message token : String} {file : Path} {i : Issue} :
    i ∈ (errorAt t code message file token).issues ↔
      ∃ line, Document.lineContaining t file token = .ok line ∧
        i = ⟨code, message, .error, file.text, line.map Int.ofNat⟩ := by
  simp [errorAt, mem_issues_check, error, one]

/-- No issue passes a test that only other issues pass. -/
theorem filter_issues_eq_nil {test : Issue → Bool} (h : a.Only fun i => test i = false) :
    a.issues.filter test = [] :=
  List.filter_eq_nil_iff.mpr fun i hi htest => Bool.false_ne_true ((h i hi).symm.trans htest)

theorem only_append (ha : a.Only P) (hb : b.Only P) : (a ++ b).Only P := by
  intro i hi
  rcases mem_issues_append.mp hi with hi | ⟨-, hi⟩
  · exact ha i hi
  · exact hb i hi

theorem only_all {xs : List α} {f : α → Findings} (h : ∀ x ∈ xs, (f x).Only P) :
    (all xs f).Only P := by
  induction xs with
  | nil => exact only_nothing
  | cons x xs ih =>
    exact only_append (h x List.mem_cons_self) (ih fun y hy => h y (List.mem_cons_of_mem x hy))

/-- What goes on with a result reports only what it reports for the result that there is. -/
theorem only_check_of_ok {r : Except Failure α} {next : α → Findings}
    (h : ∀ x, r = .ok x → (next x).Only P) : (check r next).Only P := by
  intro i hi
  obtain ⟨x, hx, hi⟩ := mem_issues_check.mp hi
  exact h x hx i hi

theorem only_check {r : Except Failure α} {next : α → Findings} (h : ∀ x, (next x).Only P) :
    (check r next).Only P :=
  only_check_of_ok fun x _ => h x

theorem only_when {c : Bool} (h : a.Only P) : (when c a).Only P := by
  cases c with
  | true => exact h
  | false => exact only_nothing

variable {t : FileTree} {code message token subject : String} {file : Path} {line : Option Nat}

theorem only_error (h : P ⟨code, message, .error, file.text, line.map Int.ofNat⟩) :
    (error code message file line).Only P := by
  simpa [Only, error, one] using h

theorem only_warning (h : P ⟨code, message, .warning, file.text, line.map Int.ofNat⟩) :
    (warning code message file line).Only P := by
  simpa [Only, warning, one] using h

theorem only_errorAt
    (h : ∀ line : Option Nat, P ⟨code, message, .error, file.text, line.map Int.ofNat⟩) :
    (errorAt t code message file token).Only P :=
  only_check fun line => only_error (h line)

theorem only_warningAt
    (h : ∀ line : Option Nat, P ⟨code, message, .warning, file.text, line.map Int.ofNat⟩) :
    (warningAt t code message file token).Only P :=
  only_check fun line => only_warning (h line)

theorem only_fieldErrors {issues : List FieldIssue}
    (h : ∀ message, ∀ line : Option Nat,
      P ⟨code, message, .error, file.text, line.map Int.ofNat⟩) :
    (fieldErrors t code subject file issues).Only P :=
  only_all fun _ _ => only_errorAt (h _)

end Only

section Passes

variable {a b : Findings} {α : Type}

@[simp]
theorem passes_nothing : nothing.Passes :=
  ⟨rfl, only_nothing⟩

@[simp]
theorem not_passes_failed (f : Failure) : ¬ (failed f).Passes := by
  simp [Passes, failed]

/-- A pair is passed exactly when both of its parts are. -/
@[simp]
theorem passes_append : (a ++ b).Passes ↔ a.Passes ∧ b.Passes := by
  show (append a b).Passes ↔ _
  unfold append Passes Only
  cases h : a.failure with
  -- a failure hides the second part, but is itself enough not to pass
  | some f => simp [h]
  | none =>
    -- without one both parts are reported in full
    simp only [List.mem_append, or_imp, forall_and, true_and]
    exact and_left_comm

/-- A row of findings is passed exactly when each of them is. -/
@[simp]
theorem passes_all {xs : List α} {f : α → Findings} :
    (all xs f).Passes ↔ ∀ x ∈ xs, (f x).Passes := by
  induction xs with
  | nil => simp [all]
  | cons x xs ih =>
    show (f x ++ all xs f).Passes ↔ _
    rw [passes_append, ih, List.forall_mem_cons]

/-- What goes on with a result is passed exactly when there is a result and its findings are
passed. -/
@[simp]
theorem passes_check {r : Except Failure α} {next : α → Findings} :
    (check r next).Passes ↔ ∃ x, r = .ok x ∧ (next x).Passes := by
  cases r with
  | ok x => simp [check]
  | error f => simp [check]

/-- Findings that are reported under a condition are passed exactly when they are under it. -/
@[simp]
theorem passes_when {c : Bool} : (when c a).Passes ↔ (c = true → a.Passes) := by
  cases c <;> simp [when]

/-- What is looked for is there if its absence would be reported. -/
theorem of_passes_when_not {c : Bool} (ha : ¬ a.Passes) (h : (when (!c) a).Passes) : c = true := by
  cases c with
  | true => rfl
  | false => exact absurd (passes_when.mp h rfl) ha

variable {t : FileTree} {code message token subject : String} {file : Path} {line : Option Nat}

@[simp]
theorem not_passes_error : ¬ (error code message file line).Passes := by
  simp [Passes, Only, error, one]

@[simp]
theorem not_passes_errorAt : ¬ (errorAt t code message file token).Passes := by
  simp [errorAt]

/-- The values of a manifest are passed exactly when all of them fit. -/
@[simp]
theorem passes_fieldErrors {issues : List FieldIssue} :
    (fieldErrors t code subject file issues).Passes ↔ issues = [] := by
  rw [fieldErrors, passes_all]
  simp [List.eq_nil_iff_forall_not_mem]

end Passes

section Whole

variable {a b : Findings} {α : Type} {xs : List α} {f : α → Findings}

/-- A pair does not fail exactly when neither of its parts does. -/
theorem failure_append_eq_none : (a ++ b).failure = none ↔ a.failure = none ∧ b.failure = none := by
  show (append a b).failure = none ↔ _
  unfold append
  cases h : a.failure with
  | some f => simp [h]
  | none => simp

/-- The whole ends with the failure of the first part if that fails, and else as the second. -/
theorem failure_append : (a ++ b).failure = if a.failure.isSome then a.failure else b.failure := by
  show (append a b).failure = _
  unfold append
  cases h : a.failure with
  | some f => exact h
  | none => rfl

/-- Without a failure the counts of both are reported. -/
theorem counts_append (h : a.failure = none) : (a ++ b).counts = a.counts ++ b.counts := by
  show (append a b).counts = _
  simp [append, h]

/-- Findings about values that are made from others are findings about those. -/
theorem all_map {β : Type} {ys : List β} {g : β → α} : all (ys.map g) f = all ys fun y => f (g y) :=
  List.foldr_map

/-- A row of findings does not fail exactly when none of them does. -/
theorem failure_all_eq_none : (all xs f).failure = none ↔ ∀ x ∈ xs, (f x).failure = none := by
  induction xs with
  | nil => simp [all, nothing]
  | cons x xs ih =>
    show (f x ++ all xs f).failure = none ↔ _
    rw [failure_append_eq_none, ih, List.forall_mem_cons]

/-- A row of findings without a failure reports the issues of each of them in turn. -/
theorem issues_all (h : (all xs f).failure = none) :
    (all xs f).issues = xs.flatMap fun x => (f x).issues := by
  induction xs with
  | nil => rfl
  | cons x xs ih =>
    obtain ⟨hx, hxs⟩ := failure_append_eq_none.mp h
    show (f x ++ all xs f).issues = _
    rw [issues_append hx, ih hxs, List.flatMap_cons]

/-- A row of findings without a failure counts what each of them counts in turn. -/
theorem counts_all (h : (all xs f).failure = none) :
    (all xs f).counts = xs.flatMap fun x => (f x).counts := by
  induction xs with
  | nil => rfl
  | cons x xs ih =>
    obtain ⟨hx, hxs⟩ := failure_append_eq_none.mp h
    show (f x ++ all xs f).counts = _
    rw [counts_append hx, ih hxs, List.flatMap_cons]

/-- Where the values that pass a test give one issue each, these are the issues. -/
theorem all_when_one {test : α → Bool} {g : α → Issue} :
    all xs (fun x => when (test x) (one (g x))) = { issues := (xs.filter test).map g } := by
  induction xs with
  | nil => rfl
  | cons x xs ih =>
    show when (test x) (one (g x)) ++ all xs _ = _
    rw [ih]
    cases hx : test x with
    | true =>
      rw [List.filter_cons_of_pos hx]
      rfl
    | false =>
      rw [List.filter_cons_of_neg (by simp [hx])]
      exact nothing_append _

/-- Where those of some values that satisfy `P` give an issue each, and the others give nothing, the
issues are those of them in turn. -/
theorem forall₂_issues_all {P : α → Prop} [DecidablePred P] {R : α → Issue → Prop}
    (h : ∀ x ∈ xs, (P x ∧ ∃ i, R x i ∧ f x = one i) ∨ (¬ P x ∧ f x = nothing)) :
    (all xs f).failure = none ∧ List.Forall₂ R (xs.filter P) (all xs f).issues := by
  -- along the values; an issue does not hide those behind it
  induction xs with
  | nil => exact ⟨rfl, .nil⟩
  | cons x xs ih =>
    obtain ⟨hx, hxs⟩ := List.forall_mem_cons.mp h
    obtain ⟨hfailure, hissues⟩ := ih hxs
    show (f x ++ all xs f).failure = none ∧ List.Forall₂ R _ (f x ++ all xs f).issues
    rcases hx with ⟨hP, i, hi, hone⟩ | ⟨hP, hnothing⟩
    · rw [hone, issues_append rfl, List.filter_cons_of_pos (by simpa using hP)]
      exact ⟨failure_append_eq_none.mpr ⟨rfl, hfailure⟩, .cons hi hissues⟩
    · rw [hnothing, nothing_append, List.filter_cons_of_neg (by simpa using hP)]
      exact ⟨hfailure, hissues⟩

/-- What goes on with a result does not fail exactly when there is a result and its findings do not
fail. -/
theorem failure_check_eq_none {r : Except Failure α} :
    (check r f).failure = none ↔ ∃ x, r = .ok x ∧ (f x).failure = none := by
  cases r with
  | ok x => simp [check]
  | error e => simp [check, failed]

/-- Findings that are reported under a condition do not fail if they do not. -/
theorem failure_when {c : Bool} (h : a.failure = none) : (when c a).failure = none := by
  cases c with
  | true => exact h
  | false => rfl

section Tested

variable {test : Issue → Bool}

/-- Of a pair only the first part counts where no issue of the second one passes a test. -/
theorem filter_append_left (h : b.Only fun i => test i = false) :
    (a ++ b).issues.filter test = a.issues.filter test := by
  show (append a b).issues.filter test = _
  unfold append
  cases a.failure with
  | some f => rfl
  | none => exact (List.filter_append _ _).trans (by rw [filter_issues_eq_nil h, List.append_nil])

/-- Only the second part counts where the first one ends in no failure and none of its issues passes
a test. -/
theorem filter_append_right (hfailure : a.failure = none) (h : a.Only fun i => test i = false) :
    (a ++ b).issues.filter test = b.issues.filter test := by
  rw [issues_append hfailure, List.filter_append, filter_issues_eq_nil h, List.nil_append]

/-- Where only issues of one value pass a test, these are the ones that pass it, unless a value in
front of it ends in a failure. -/
theorem filter_all {before after : List α} {x : α}
    (h : ∀ y ∈ before ++ after, (f y).Only fun i => test i = false) :
    (all (before ++ x :: after) f).issues.filter test = (f x).issues.filter test ∨
      ¬ (∀ y ∈ before, (f y).failure = none) ∧
        (all (before ++ x :: after) f).issues.filter test = [] := by
  induction before with
  | nil => exact .inl (filter_append_left (only_all h))
  | cons y before ih =>
    obtain ⟨hy, hrest⟩ := List.forall_mem_cons.mp h
    show (f y ++ all (before ++ x :: after) f).issues.filter test = _ ∨
      _ ∧ (f y ++ all (before ++ x :: after) f).issues.filter test = _
    cases hfailure : (f y).failure with
    | none =>
      rw [filter_append_right hfailure hy]
      refine (ih hrest).imp_right (And.imp_left fun hnot hall => hnot ?_)
      exact fun z hz => hall z (List.mem_cons_of_mem y hz)
    | some e =>
      -- what comes behind a failure is not reported
      refine .inr ⟨fun hall => ?_, filter_issues_eq_nil fun i hi => ?_⟩
      · cases hfailure.symm.trans (hall y List.mem_cons_self)
      · rcases mem_issues_append.mp hi with hi | ⟨hnone, -⟩
        · exact hy i hi
        · cases hfailure.symm.trans hnone

end Tested

variable {t : FileTree} {code message token subject : String} {file : Path}
  (hname : FileTree.isNameable file = true)

include hname

/-- A line is looked for in every file that has a name. -/
theorem exists_lineContaining (t : FileTree) (token : String) :
    ∃ line, Document.lineContaining t file token = .ok line := by
  unfold Document.lineContaining Document.findLine
  split
  · exact absurd ‹_› (FileTree.readText_ne_unnameable hname)
  · exact ⟨_, rfl⟩
  · exact ⟨_, rfl⟩

/-- An error about a line is reported with the line that is found. -/
theorem exists_errorAt_eq (t : FileTree) (code message token : String) :
    ∃ line, Document.lineContaining t file token = .ok line ∧
      errorAt t code message file token = error code message file line := by
  obtain ⟨line, hline⟩ := exists_lineContaining hname t token
  exact ⟨line, hline, by rw [errorAt, hline, check]⟩

theorem failure_errorAt : (errorAt t code message file token).failure = none := by
  obtain ⟨line, hline⟩ := exists_lineContaining hname t token
  exact failure_check_eq_none.mpr ⟨line, hline, rfl⟩

theorem failure_warningAt : (warningAt t code message file token).failure = none := by
  obtain ⟨line, hline⟩ := exists_lineContaining hname t token
  exact failure_check_eq_none.mpr ⟨line, hline, rfl⟩

/-- Errors about the fields of a manifest do not fail. -/
theorem failure_fieldErrors {issues : List FieldIssue} :
    (fieldErrors t code subject file issues).failure = none :=
  failure_all_eq_none.mpr fun _ _ => failure_errorAt hname

/-- Errors about the fields of a manifest count nothing. -/
theorem counts_fieldErrors {issues : List FieldIssue} :
    (fieldErrors t code subject file issues).counts = [] := by
  unfold fieldErrors
  rw [counts_all (failure_fieldErrors hname), List.flatMap_eq_nil_iff]
  intro i _
  obtain ⟨line, -, herror⟩ := exists_errorAt_eq hname t code
    (subject ++ ": field '" ++ i.location ++ "' has an invalid value (" ++ i.message ++ ")") i.field
  rw [herror]
  rfl

end Whole

section About

variable {a b : Findings} {file : String}

/-- Findings are about the files that both parts are about, up to the first failure. -/
theorem about_append :
    (a ++ b).about file =
      if a.failure.isSome then a.about file else a.about file ++ b.about file := by
  show (append a b).about file = _
  unfold append about
  -- a failure of the first part hides the second
  cases a.failure with
  | some f => rfl
  | none => exact List.filter_append _ _

/-- Findings that are about other files have nothing about the file. -/
theorem about_eq_nil (h : a.Only fun i => i.file ≠ file) : a.about file = [] :=
  filter_issues_eq_nil (h.mono fun _ hne => beq_eq_false_iff_ne.mpr hne)

variable {α : Type} {xs : List α} {f : α → Findings} {fileOf : α → String}

/-- Where values have files of their own, and no issue of a value with another file passes a test,
the issues that pass it are those of the one value. -/
theorem filter_all_of_nodup {test : Issue → Bool} (hfailure : (all xs f).failure = none)
    (hnodup : (xs.map fileOf).Nodup) {x : α} (hx : x ∈ xs)
    (hother : ∀ y ∈ xs, fileOf y ≠ fileOf x → (f y).Only fun i => test i = false) :
    (all xs f).issues.filter test = (f x).issues.filter test := by
  rw [issues_all hfailure, List.filter_flatMap,
    List.flatMap_eq_of_nodup hnodup.of_map hx fun y hy hne => filter_issues_eq_nil ?_]
  exact hother y hy fun heq => hne (List.inj_on_of_nodup_map hnodup hy hx heq)

/-- Where each of some values has findings about a file of its own, those about the file of one of
them are its own findings. -/
theorem about_all (hfailure : (all xs f).failure = none)
    (hfile : ∀ x ∈ xs, (f x).Only fun i => i.file = fileOf x) (hnodup : (xs.map fileOf).Nodup)
    {x : α} (hx : x ∈ xs) : (all xs f).about (fileOf x) = (f x).issues := by
  unfold about
  rw [filter_all_of_nodup hfailure hnodup hx fun y hy hne => ?_]
  · exact List.filter_eq_self.mpr fun i hi => beq_iff_eq.mpr (hfile x hx i hi)
  · exact (hfile y hy).mono fun i hi => beq_eq_false_iff_ne.mpr (hi.trans_ne hne)

end About

end AgentPackage.Findings
