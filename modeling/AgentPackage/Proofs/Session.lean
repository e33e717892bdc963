import AgentPackage.Proofs.FileTree.Names
import AgentPackage.Proofs.Package.Index
import AgentPackage.Session

/-!
# What a session remembers

A session keeps the model that was built last, whatever is written, removed and audited afterwards.
Questions about paths inside the package are answered from the listing of that model, so that the
files of the moment do not matter to them, and neither does the spelling of a path.

## Main definitions

* `Index.Listing.hasFile`, `Index.Listing.hasDirectory`: what a listing knows of a path;
* `Session.KeepsModel`: no step builds another model.

## Main results

* `Session.package_run`: the model is kept by steps that build none;
* `Session.answers_of_listing`: the answers about the inside of a package are those of the listing
  that was taken when the model was built.
-/

namespace AgentPackage

namespace Index.Listing

/-- Whether a listing holds a path, in its normal form, as a file. -/
def hasFile (l : Listing) (path : Path) : Bool :=
  l.files.contains path.normalize

/-- Whether a path, in its normal form, is the root of a listing or is held as a directory. -/
def hasDirectory (l : Listing) (root path : Path) : Bool :=
  path.normalize == root || l.directories.contains path.normalize

end Index.Listing

namespace Package

variable {p : Package} {t : FileTree} {path path' : Path}

/-- What is known of the files and directories of a package. -/
def listed (p : Package) : Index.Listing :=
  ⟨p.files, p.directories⟩

section Inside

variable (h : p.isInside path = true)

include h

/-- Inside a package a path is normal form, and the listing tells whether it is a file. -/
theorem hasFile_of_isInside : p.hasFile t path = .ok (p.listed.hasFile path) := by
  have hinside : p.isInside path.normalize = true := by
    rw [isInside, Path.normalize_normalize]
    exact h
  rw [hasFile, if_pos hinside]
  rfl

/-- Inside a package the listing tells whether a path is a directory. -/
theorem hasDirectory_of_isInside :
    p.hasDirectory t path = .ok (p.listed.hasDirectory p.root path) := by
  have hinside : p.isInside path.normalize = true := by
    rw [isInside, Path.normalize_normalize]
    exact h
  rw [hasDirectory, Index.Listing.hasDirectory]
  cases path.normalize == p.root with
  | true => rfl
  | false => rw [if_neg Bool.false_ne_true, if_pos hinside]; rfl

/-- Inside a package the listing tells whether a path exists. -/
theorem pathExists_of_isInside :
    p.pathExists t path = .ok (p.listed.hasFile path || p.listed.hasDirectory p.root path) := by
  rw [pathExists, hasFile_of_isInside h, hasDirectory_of_isInside h]
  cases p.listed.hasFile path <;> rfl

end Inside

/-- The manifest of a guardrail is looked up in the listing if all of its candidates lie inside the
package. -/
theorem resolve_of_isInside {reference : String}
    (h : ∀ c ∈ Guardrail.candidates p.root reference, p.isInside c = true) :
    Guardrail.resolve t p reference =
      .ok ((Guardrail.candidates p.root reference).find? p.listed.hasFile) :=
  Except.findM?_eq_find? fun c hc => hasFile_of_isInside (h c hc)

/-- Spellings of a path with one normal form get the same answers, inside the package and
outside. -/
theorem answers_eq_of_normalize_eq (h : path.normalize = path'.normalize) :
    p.hasFile t path = p.hasFile t path' ∧ p.hasDirectory t path = p.hasDirectory t path' ∧
      p.pathExists t path = p.pathExists t path' := by
  have hfile : p.hasFile t path = p.hasFile t path' := by
    rw [hasFile, hasFile, h]
  have hdirectory : p.hasDirectory t path = p.hasDirectory t path' := by
    rw [hasDirectory, hasDirectory, h]
  refine ⟨hfile, hdirectory, ?_⟩
  rw [pathExists, pathExists, hfile, hdirectory]

end Package

namespace Session

variable {s : Session} {x : Step}

/-- What building a model gives in the session. -/
def built (s : Session) : Except Failure Package :=
  Package.build s.tree s.cwd s.root

/-- The step asks for a model to be built. -/
def Step.IsBuild : Step → Prop
  | .build => True
  | _ => False

/-- No step builds a model. A model that cannot be built is not. -/
def KeepsModel (s : Session) : List Step → Prop
  | [] => True
  | x :: xs => (x.IsBuild → ¬ ∃ p, s.built = .ok p) ∧ (s.step x).1.KeepsModel xs

section Step

/-- Changing the tree changes nothing else. -/
theorem change_eq (s : Session) (path : Path) (tree : Except AccessError FileTree) :
    ∃ tree', (s.change path tree).1 = { s with tree := tree' } := by
  cases tree with
  | ok tree => exact ⟨tree, rfl⟩
  | error e => exact ⟨s.tree, rfl⟩

/-- A step other than one that builds a model changes the tree at most. -/
theorem step_eq_of_not_built (h : x.IsBuild → ¬ ∃ p, s.built = .ok p) :
    ∃ tree, (s.step x).1 = { s with tree } := by
  cases x with
  | build =>
    cases hbuilt : s.built with
    | ok p => exact absurd ⟨p, hbuilt⟩ (h trivial)
    | error f =>
      refine ⟨s.tree, ?_⟩
      rw [built] at hbuilt
      simp only [step, hbuilt]
  | write path entry => exact change_eq s path _
  | remove path => exact change_eq s path _
  | _ => exact ⟨s.tree, rfl⟩

/-- A step changes neither the working directory nor the root. -/
theorem cwd_root_step (s : Session) (x : Step) :
    (s.step x).1.cwd = s.cwd ∧ (s.step x).1.root = s.root := by
  by_cases h : x.IsBuild → ¬ ∃ p, s.built = .ok p
  · obtain ⟨tree, htree⟩ := step_eq_of_not_built h
    rw [htree]
    exact ⟨rfl, rfl⟩
  · -- a model is built
    simp only [not_forall, not_not] at h
    obtain ⟨hbuild, p, hbuilt⟩ := h
    cases x with
    | build =>
      rw [built] at hbuilt
      simp only [step, hbuilt, and_self]
    | _ => exact hbuild.elim

end Step

section Run

variable {steps : List Step}

/-- Some steps and then others. -/
theorem run_append (s : Session) (xs ys : List Step) :
    (s.run (xs ++ ys)).1 = ((s.run xs).1.run ys).1 := by
  induction xs generalizing s with
  | nil => rfl
  | cons x xs ih => exact ih _

/-- Steps change neither the working directory nor the root. -/
theorem cwd_root_run (s : Session) (steps : List Step) :
    (s.run steps).1.cwd = s.cwd ∧ (s.run steps).1.root = s.root := by
  induction steps generalizing s with
  | nil => exact ⟨rfl, rfl⟩
  | cons x xs ih =>
    obtain ⟨hcwd, hroot⟩ := cwd_root_step s x
    rw [← hcwd, ← hroot]
    exact ih _

/-- The paths of a package are seen from the same root at all times. -/
theorem inside_run (s : Session) (steps : List Step) (path : String) :
    (s.run steps).1.inside path = s.inside path := by
  obtain ⟨hcwd, hroot⟩ := cwd_root_run s steps
  rw [inside, inside, hcwd, hroot]

/-- The model is kept by steps that build none. -/
theorem package_run (h : s.KeepsModel steps) : (s.run steps).1.package = s.package := by
  induction steps generalizing s with
  | nil => rfl
  | cons x xs ih =>
    obtain ⟨tree, htree⟩ := step_eq_of_not_built h.1
    calc ((s.step x).1.run xs).1.package
        = (s.step x).1.package := ih h.2
      _ = s.package := by rw [htree]

end Run

/-- After a model was built, questions about paths inside its package are answered from the listing
that was taken then, whatever steps follow, as long as none builds another model: whether a path is
a file, a directory or anything, and which manifest a guardrail has if all of its candidates lie
inside. Spellings of a path with one normal form get the same answers. -/
theorem answers_of_listing (s : Session) (before : List Step) {p : Package}
    (hbuilt : (s.run before).1.built = .ok p) :
    ∃ l, Index.listing (s.run before).1.tree p.root = .ok l ∧
      ∀ after, ((s.run before).1.step .build).1.KeepsModel after →
        let now := (s.run (before ++ .build :: after)).1
        (∀ path, p.isInside (s.inside path) = true →
          (now.step (.hasFile path)).2 = .truth (l.hasFile (s.inside path)) ∧
          (now.step (.hasDirectory path)).2 = .truth (l.hasDirectory p.root (s.inside path)) ∧
          (now.step (.pathExists path)).2 =
            .truth (l.hasFile (s.inside path) || l.hasDirectory p.root (s.inside path))) ∧
        (∀ reference,
          (∀ c ∈ Guardrail.candidates p.root reference, p.isInside c = true) →
            (now.step (.guardrail reference)).2 =
              .path ((Guardrail.candidates p.root reference).find? l.hasFile)) ∧
        ∀ path path', (s.inside path).normalize = (s.inside path').normalize →
          (now.step (.hasFile path)).2 = (now.step (.hasFile path')).2 ∧
          (now.step (.hasDirectory path)).2 = (now.step (.hasDirectory path')).2 ∧
          (now.step (.pathExists path)).2 = (now.step (.pathExists path')).2 := by
  refine ⟨p.listed, (Package.build_eq_ok_iff.mp hbuilt).2.listing, fun after hafter => ?_⟩
  -- the model is that of the build, and paths are seen from where they were
  have hpackage : (s.run (before ++ .build :: after)).1.package = some p := by
    rw [run_append]
    show (((s.run before).1.step .build).1.run after).1.package = some p
    rw [package_run hafter]
    rw [built] at hbuilt
    simp only [step, hbuilt]
  have hinside := inside_run s (before ++ .build :: after)
  generalize (s.run (before ++ .build :: after)).1 = now at hpackage hinside
  dsimp only
  have hask : ∀ question, now.ask question = question p := fun question => by
    rw [ask, hpackage]
  simp only [step, hask, hinside]
  refine ⟨fun path hpath => ?_, fun reference hreference => ?_, fun path path' hpath => ?_⟩
  · rw [Package.hasFile_of_isInside hpath, Package.hasDirectory_of_isInside hpath,
      Package.pathExists_of_isInside hpath]
    exact ⟨rfl, rfl, rfl⟩
  · rw [Package.resolve_of_isInside hreference]
    rfl
  · obtain ⟨hfile, hdirectory, hexists⟩ := Package.answers_eq_of_normalize_eq (p := p)
      (t := now.tree) hpath
    rw [hfile, hdirectory, hexists]
    exact ⟨rfl, rfl, rfl⟩

section Desk

/-- A session about a package with a guardrail and a folder of agents. -/
def desk : Session where
  tree := ⟨[(["desk"], .directory), (["desk", "app.json"], .file "\x7b\x7d".toUTF8),
    (["desk", "agents"], .directory), (["desk", "guardrails"], .directory),
    (["desk", "guardrails", "be_kind.json"], .file "\x7b\x7d".toUTF8)]⟩
  cwd := ⟨.root, []⟩
  root := ⟨.relative, ["desk"]⟩

/-- A file is written and the guardrail is removed, the package is audited in all ways, and in the
end no model of it can be built any more. -/
def deskSteps : List Step :=
  [.write ⟨.root, ["desk", "agents", "new.txt"]⟩ (.file ⟨#[]⟩),
    .remove ⟨.root, ["desk", "guardrails"]⟩, .issues {}, .audit {}, .auditBy Audit.battery {},
    .write ⟨.root, ["desk", "agents", "loop"]⟩ (.link "loop"), .build]

set_option maxRecDepth 10000 in
/-- The guardrail is still there for the session, under other spellings of its path too, and the new
file is not. -/
theorem answers_of_listing_desk :
    ∃ p, desk.built = .ok p ∧ (desk.step .build).1.KeepsModel deskSteps ∧
      p.isInside (desk.inside "agents/../guardrails/be_kind.json") = true ∧
      (∀ c ∈ Guardrail.candidates p.root "be kind", p.isInside c = true) ∧
      (desk.inside "../desk/agents/new.txt").normalize =
        (desk.inside "agents//./new.txt").normalize ∧
      let now := (desk.run ([] ++ .build :: deskSteps)).1
      (now.step (.hasFile "agents/../guardrails/be_kind.json")).2 = .truth true ∧
        (now.step (.guardrail "be kind")).2 =
          .path (some ⟨.root, ["desk", "guardrails", "be_kind.json"]⟩) ∧
        (now.step (.pathExists "agents//./new.txt")).2 = .truth false := by
  have hkeeps : (desk.step .build).1.KeepsModel deskSteps :=
    ⟨nofun, nofun, nofun, nofun, nofun, nofun, fun _ => by decide +kernel, trivial⟩
  obtain ⟨p, hbuilt, hroot, hgone, hnew, hinside⟩ : ∃ p, desk.built = .ok p ∧
      p.root = ⟨.root, ["desk"]⟩ ∧
      p.isInside (desk.inside "agents/../guardrails/be_kind.json") = true ∧
      p.isInside (desk.inside "agents//./new.txt") = true ∧
      ∀ c ∈ Guardrail.candidates p.root "be kind", p.isInside c = true := by
    decide +kernel
  have hspelled : (desk.inside "../desk/agents/new.txt").normalize =
      (desk.inside "agents//./new.txt").normalize := by
    decide +kernel
  obtain ⟨l, hl, hanswers⟩ := answers_of_listing desk [] hbuilt
  obtain ⟨hpaths, hguardrails, -⟩ := hanswers deskSteps hkeeps
  refine ⟨p, hbuilt, hkeeps, hgone, hinside, hspelled, ?_⟩
  dsimp only
  rw [(hpaths _ hgone).1, (hpaths _ hnew).2.2, hguardrails _ hinside, hroot]
  rw [hroot] at hl
  -- what the listing of that time holds
  obtain ⟨l', hl', hlisted⟩ : ∃ l', Index.listing desk.tree ⟨.root, ["desk"]⟩ = .ok l' ∧
      l'.hasFile (desk.inside "agents/../guardrails/be_kind.json") = true ∧
      (Guardrail.candidates ⟨.root, ["desk"]⟩ "be kind").find? l'.hasFile =
        some ⟨.root, ["desk", "guardrails", "be_kind.json"]⟩ ∧
      (l'.hasFile (desk.inside "agents//./new.txt") ||
        l'.hasDirectory ⟨.root, ["desk"]⟩ (desk.inside "agents//./new.txt")) = false := by
    decide +kernel
  cases hl.symm.trans hl'
  rw [hlisted.1, hlisted.2.1, hlisted.2.2]
  exact ⟨rfl, rfl, rfl⟩

end Desk

end Session

end AgentPackage
