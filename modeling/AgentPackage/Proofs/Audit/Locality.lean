import AgentPackage.Proofs.Audit.Codes
import AgentPackage.Proofs.Package.Places
import AgentPackage.Proofs.Package.Rebuild

/-!
# Locality of findings

The rules about agents and about toolsets go through the entities of a package one by one. What they
report about the manifest of one entity does not depend on the content of the manifest of another,
with one exception that is meant: the schema that a toolset declares may be any file, so that a
toolset can have the manifest of another one checked as its schema. Nothing is said here for the
case that checking an entity fails, which ends the whole rule.

## Main definitions

* `Findings.Agree`: findings that say the same about one file, and of which both fail or neither;
* `AgentChecksEnd`, `ToolsetChecksEnd`: checking the entities that read a file does not fail;
* `NoSchemaAt`: no toolset whose manifest is in a file has its schema at a path.

## Main results

* `agree_all`: findings that agree for each value agree as a whole;
* `agentFindings_withContent`, `about_toolsetFindings`: other content in a file does not change the
  findings about an entity that is not read from it;
* `issues_about_withContent`: the rules about agents and toolsets are local;
* `issues_about_not_local`: the exception.
-/

namespace AgentPackage

open Findings

namespace Findings

/-- The findings say the same about one file, and both of them fail or neither. -/
def Agree (file : String) (a b : Findings) : Prop :=
  a.failure.isSome = b.failure.isSome ∧ a.about file = b.about file

section Agree

variable {file : String} {a b c d : Findings}

theorem Agree.refl (a : Findings) : Agree file a a :=
  ⟨rfl, rfl⟩

/-- Findings that agree part by part agree as a whole. -/
theorem Agree.append (hac : Agree file a c) (hbd : Agree file b d) :
    Agree file (a ++ b) (c ++ d) := by
  unfold Agree
  rw [failure_append, failure_append, about_append, about_append, hac.1, hac.2]
  split
  · exact ⟨hac.1, rfl⟩
  · exact ⟨hbd.1, by rw [hbd.2]⟩

/-- Findings about related values that agree for each pair of them agree as a whole. -/
theorem agree_all {α β : Type} {R : α → β → Prop} {xs : List α} {ys : List β} {f : α → Findings}
    {g : β → Findings} (hR : List.Forall₂ R xs ys)
    (h : ∀ x ∈ xs, ∀ y ∈ ys, R x y → Agree file (f x) (g y)) :
    Agree file (all xs f) (all ys g) := by
  induction hR with
  | nil => exact Agree.refl _
  | cons hxy _ ih =>
    refine Agree.append (h _ List.mem_cons_self _ List.mem_cons_self hxy) (ih ?_)
    intro x hx y hy
    exact h x (List.mem_cons_of_mem _ hx) y (List.mem_cons_of_mem _ hy)

end Agree

section Content

variable {t : FileTree} {q : Place} {content : ByteArray} {path : Path}
  (h : t.locate path ≠ .ok q)

include h

theorem errorAt_withContent (code message token : String) :
    errorAt (t.withContent q content) code message path token =
      errorAt t code message path token := by
  unfold errorAt
  rw [Document.lineContaining_withContent h]

theorem fieldErrors_withContent (code subject : String) (issues : List FieldIssue) :
    fieldErrors (t.withContent q content) code subject path issues =
      fieldErrors t code subject path issues := by
  unfold fieldErrors
  simp only [errorAt_withContent h]

end Content

end Findings

namespace Rule

variable {t : FileTree} {q : Place} {content : ByteArray} {p p' : Package} (halike : p.Alike p')

include halike

section Agents

variable {agent : Entity AgentManifest}

/-- Other content in a file does not change the findings about an agent whose manifest is not in
the file. -/
theorem agentFindings_withContent (h : t.locate agent.manifestPath ≠ .ok q) :
    agentFindings (t.withContent q content) p' agent = agentFindings t p agent := by
  unfold agentFindings
  congr 1
  cases agent.manifest with
  | none => rfl
  | some manifest =>
    have hinstruction : agentInstruction (t.withContent q content) p' agent manifest =
        agentInstruction t p agent manifest := by
      unfold agentInstruction
      simp only [Document.lineContaining_withContent h, halike.pathExists, halike.root]
    have hchildren : childAgents (t.withContent q content) p' agent manifest =
        childAgents t p agent manifest := by
      unfold childAgents
      simp only [errorAt_withContent h, halike.agentNames]
    have htoolsets : agentToolsets (t.withContent q content) p' agent manifest =
        agentToolsets t p agent manifest := by
      unfold agentToolsets
      simp only [errorAt_withContent h, halike.toolsetNames]
    simp only [fieldErrors_withContent h, hinstruction, hchildren, htoolsets]

end Agents

section Toolsets

variable {toolset : Toolset} {file : String}

theorem schemaPath?_of_alike : schemaPath? p' toolset = schemaPath? p toolset := by
  unfold schemaPath?
  rw [halike.root]

omit halike in
/-- Other content in a file does not change what is found about a schema that is not in the file. -/
theorem schemaFile_withContent {path : Path} (h : t.locate path ≠ .ok q) :
    schemaFile (t.withContent q content) path = schemaFile t path := by
  unfold schemaFile schemaDocument
  simp only [Document.readByExtension_withContent h, Document.lineOfVersionMarker_withContent h]

omit halike in
/-- Nor does it change what is found about other files than the schema. -/
theorem about_schemaFile {path : Path} (h : t.locate path = .ok q → path.text ≠ file) :
    (schemaFile (t.withContent q content) path).about file = (schemaFile t path).about file := by
  by_cases hplace : t.locate path = .ok q
  · have hne : ∀ i : Issue, i.HasCode toolsetCodes ∧ i.file = path.text → i.file ≠ file :=
      fun i hi hfile => h hplace (hi.2.symm.trans hfile)
    rw [about_eq_nil (schemaFile_only.mono hne), about_eq_nil (schemaFile_only.mono hne)]
  · rw [schemaFile_withContent hplace]

variable (h : t.locate toolset.entity.manifestPath ≠ .ok q)

include h

theorem noSchemaFile_withContent :
    noSchemaFile (t.withContent q content) p' toolset = noSchemaFile t p toolset := by
  unfold noSchemaFile
  simp only [halike.hasDirectory, errorAt_withContent h]

theorem toolsetSchema_withContent
    (hschema : ∀ path ∈ schemaPath? p toolset, t.locate path ≠ .ok q) :
    toolsetSchema (t.withContent q content) p' toolset = toolsetSchema t p toolset := by
  -- without a declared schema the one in the folder is read, if there is one
  rcases Option.eq_none_or_eq_some (declaredSchema? toolset) with hnone | ⟨declared, hdeclared⟩
  · rw [toolsetSchema, toolsetSchema, hnone]
    cases hdetected : toolset.detectedSchema with
    | none => exact noSchemaFile_withContent halike h
    | some path =>
      exact schemaFile_withContent (hschema path (by rw [schemaPath?, hnone, hdetected]; rfl))
  · have hpath := hschema _ (by rw [schemaPath?, hdeclared]; rfl)
    rw [toolsetSchema, toolsetSchema, hdeclared]
    simp only [halike.root, halike.pathExists, schemaFile_withContent hpath,
      errorAt_withContent h, noSchemaFile_withContent halike h]

theorem about_toolsetSchema
    (hschema : ∀ path ∈ schemaPath? p toolset, t.locate path = .ok q → path.text ≠ file) :
    (toolsetSchema (t.withContent q content) p' toolset).about file =
      (toolsetSchema t p toolset).about file := by
  rcases Option.eq_none_or_eq_some (declaredSchema? toolset) with hnone | ⟨declared, hdeclared⟩
  · rw [toolsetSchema, toolsetSchema, hnone]
    cases hdetected : toolset.detectedSchema with
    | none => exact congrArg (·.about file) (noSchemaFile_withContent halike h)
    | some path =>
      exact about_schemaFile (hschema path (by rw [schemaPath?, hnone, hdetected]; rfl))
  · have hpath := hschema _ (by rw [schemaPath?, hdeclared]; rfl)
    rw [toolsetSchema, toolsetSchema, hdeclared]
    simp only [halike.root, halike.pathExists, errorAt_withContent h,
      noSchemaFile_withContent halike h]
    cases p.pathExists t (Declared.resolve p.root (Declared.withSlashes declared)) with
    | error f => simp only [check]
    | ok pathExists =>
      simp only [check]
      split
      · exact about_schemaFile hpath
      · rfl

/-- Other content in a file does not change the findings about a toolset of which neither the
manifest nor the schema is in the file. -/
theorem toolsetFindings_withContent
    (hschema : ∀ path ∈ schemaPath? p toolset, t.locate path ≠ .ok q) :
    toolsetFindings (t.withContent q content) p' toolset = toolsetFindings t p toolset := by
  unfold toolsetFindings
  rw [fieldErrors_withContent h, toolsetSchema_withContent halike h hschema]

/-- Nor does it change what is found about a file, if the manifest of the toolset is not in the
file with other content and its schema is at another path. -/
theorem about_toolsetFindings
    (hschema : ∀ path ∈ schemaPath? p toolset, t.locate path = .ok q → path.text ≠ file) :
    (toolsetFindings (t.withContent q content) p' toolset).about file =
      (toolsetFindings t p toolset).about file := by
  unfold toolsetFindings
  cases toolset.entity.error with
  | some reason => rfl
  | none =>
    dsimp only
    rw [about_append, about_append, fieldErrors_withContent h,
      about_toolsetSchema halike h hschema]

end Toolsets

end Rule

/-- Other content in a file leaves the names in a tree as they are. -/
theorem FileTree.Proper.withContent {t : FileTree} (h : t.Proper) {q : Place}
    {content : ByteArray} : (t.withContent q content).Proper := by
  intro x hx name hname
  obtain ⟨y, hy, rfl⟩ := List.mem_map.mp hx
  exact h y hy name hname

namespace Audit

open Rule

/-- Checking the agents whose manifests are in the file at a place does not fail. -/
def AgentChecksEnd (t : FileTree) (q : Place) (p : Package) : Prop :=
  ∀ b ∈ p.agents, t.locate b.manifestPath = .ok q → (agentFindings t p b).failure = none

instance (t : FileTree) (q : Place) (p : Package) : Decidable (AgentChecksEnd t q p) :=
  inferInstanceAs (Decidable (∀ b ∈ p.agents, _ → _))

/-- Checking the toolsets whose manifests or schemas are in the file at a place does not fail. -/
def ToolsetChecksEnd (t : FileTree) (q : Place) (p : Package) : Prop :=
  ∀ s ∈ p.toolsets,
    (t.locate s.entity.manifestPath = .ok q ∨
      ∃ path ∈ schemaPath? p s, t.locate path = .ok q) →
    (toolsetFindings t p s).failure = none

instance (t : FileTree) (q : Place) (p : Package) : Decidable (ToolsetChecksEnd t q p) :=
  inferInstanceAs (Decidable (∀ s ∈ p.toolsets, _ → _))

/-- No toolset whose manifest is in the file at a place has its schema at the path. -/
def NoSchemaAt (t : FileTree) (q : Place) (p : Package) (path : Path) : Prop :=
  ∀ s ∈ p.toolsets, t.locate s.entity.manifestPath = .ok q → schemaPath? p s ≠ some path

instance (t : FileTree) (q : Place) (p : Package) (path : Path) :
    Decidable (NoSchemaAt t q p path) :=
  inferInstanceAs (Decidable (∀ s ∈ p.toolsets, _ → _))

section Locality

variable {t : FileTree} {q : Place} {content : ByteArray} {p p' : Package}
  (hindexed : p.Indexed t) (hindexed' : p'.Indexed (t.withContent q content))
  (hroot : p'.root = p.root) (ht : t.Proper) (hproper : p.root.Proper)
  (habsolute : p.root.isAbsolute = true)

include hindexed ht hproper habsolute

/-- What is found about an agent is not about other paths than that of its manifest. -/
theorem about_agent_eq_nil {b : Entity AgentManifest} (hb : b ∈ p.agents) {file : Path}
    (hfile : file.Proper ∧ file.isAbsolute = true) (hne : b.manifestPath ≠ file) :
    (agentFindings t p b).about file.text = [] := by
  obtain ⟨hbproper, hbabsolute⟩ := hindexed.agent_proper ht hproper habsolute hb
  refine about_eq_nil (agentFindings_only.mono fun i hi htext => hne ?_)
  exact Path.text_injective hbproper hfile.1 hbabsolute hfile.2 (hi.2.symm.trans htext)

/-- What is found about a toolset is not about other paths than those of its manifest and of its
schema. -/
theorem about_toolset_eq_nil {s : Toolset} (hs : s ∈ p.toolsets) {file : Path}
    (hfile : file.Proper ∧ file.isAbsolute = true) (hne : s.entity.manifestPath ≠ file)
    (hschema : schemaPath? p s ≠ some file) : (toolsetFindings t p s).about file.text = [] := by
  -- issues name their files by text, and texts tell proper paths apart
  have hpath : ∀ path : Path, path.Proper ∧ path.isAbsolute = true → path.text = file.text →
      path = file :=
    fun path h => Path.text_injective h.1 hfile.1 h.2 hfile.2
  refine about_eq_nil (toolsetFindings_only.mono fun i hi htext => ?_)
  rcases hi.2 with hi | ⟨path, hsome, hi⟩
  · have hmanifest := (hindexed.toolset_proper ht hproper habsolute hs).1
    exact hne (hpath _ hmanifest (hi.symm.trans htext))
  · have hschemaPath := schemaPath_proper hindexed ht hproper habsolute hs hsome
    exact hschema (hpath path hschemaPath (hi.symm.trans htext) ▸ hsome)

include hindexed' hroot

/-- The rule about agents says the same about the manifest of an agent when the content of another
file is replaced. -/
theorem about_agents {a : Entity AgentManifest} (ha : a ∈ p.agents)
    (hne : t.locate a.manifestPath ≠ .ok q) (hend : AgentChecksEnd t q p)
    (hend' : AgentChecksEnd (t.withContent q content) q p') :
    (all p.agents (agentFindings t p)).about a.manifestPath.text =
      (all p'.agents (agentFindings (t.withContent q content) p')).about a.manifestPath.text := by
  have halike := hindexed.alike hindexed' hroot
  have hfile := hindexed.agent_proper ht hproper habsolute ha
  refine (agree_all (hindexed.forall₂_agents hindexed' hroot) fun b hb b' hb' hrebuilt => ?_).2
  by_cases hplace : t.locate b.manifestPath = .ok q
  · -- an agent that is read from the file is not `a`, whose manifest it therefore leaves alone
    have hplace' : (t.withContent q content).locate b'.manifestPath = .ok q := by
      rw [FileTree.locate_withContent, hrebuilt.manifestPath, hplace]
    have hmanifest : b.manifestPath ≠ a.manifestPath := fun heq => hne (heq ▸ hplace)
    have hmanifest' : b'.manifestPath ≠ a.manifestPath := hrebuilt.manifestPath ▸ hmanifest
    have habout := about_agent_eq_nil hindexed ht hproper habsolute hb hfile hmanifest
    have habout' := about_agent_eq_nil hindexed' ht.withContent (hroot ▸ hproper)
      (hroot ▸ habsolute) hb' hfile hmanifest'
    exact ⟨by rw [hend b hb hplace, hend' b' hb' hplace'], by rw [habout, habout']⟩
  · -- the others are the same, and so are the findings about them
    obtain rfl := hrebuilt.eq_of_ne hplace
    rw [agentFindings_withContent halike hplace]
    exact Agree.refl _

/-- The rule about toolsets says the same about the manifest of a toolset when the content of
another file is replaced, unless the manifest is taken for the schema of a toolset that is read from
the file. -/
theorem about_toolsets {a : Toolset} (ha : a ∈ p.toolsets)
    (hne : t.locate a.entity.manifestPath ≠ .ok q) (hend : ToolsetChecksEnd t q p)
    (hend' : ToolsetChecksEnd (t.withContent q content) q p')
    (hschema : NoSchemaAt t q p a.entity.manifestPath)
    (hschema' : NoSchemaAt (t.withContent q content) q p' a.entity.manifestPath) :
    (all p.toolsets (toolsetFindings t p)).about a.entity.manifestPath.text =
      (all p'.toolsets (toolsetFindings (t.withContent q content) p')).about
        a.entity.manifestPath.text := by
  have halike := hindexed.alike hindexed' hroot
  have hfile := (hindexed.toolset_proper ht hproper habsolute ha).1
  refine (agree_all (hindexed.forall₂_toolsets hindexed' hroot) fun s hs s' hs' hrebuilt => ?_).2
  by_cases hplace : t.locate s.entity.manifestPath = .ok q
  · -- a toolset that is read from the file has another manifest, and no schema at that of `a`
    have hplace' : (t.withContent q content).locate s'.entity.manifestPath = .ok q := by
      rw [FileTree.locate_withContent, hrebuilt.entity.manifestPath, hplace]
    have hmanifest : s.entity.manifestPath ≠ a.entity.manifestPath := fun heq =>
      hne (heq ▸ hplace)
    have hmanifest' : s'.entity.manifestPath ≠ a.entity.manifestPath :=
      hrebuilt.entity.manifestPath ▸ hmanifest
    have habout := about_toolset_eq_nil hindexed ht hproper habsolute hs hfile hmanifest
      (hschema s hs hplace)
    have habout' := about_toolset_eq_nil hindexed' ht.withContent (hroot ▸ hproper)
      (hroot ▸ habsolute) hs' hfile hmanifest' (hschema' s' hs' hplace')
    refine ⟨?_, by rw [habout, habout']⟩
    rw [hend s hs (.inl hplace), hend' s' hs' (.inl hplace')]
  · obtain rfl := hrebuilt.eq_of_ne hplace
    -- the schema of a toolset with another manifest may still be in the file
    by_cases hreads : ∃ path ∈ schemaPath? p s', t.locate path = .ok q
    · have hreads' : ∃ path ∈ schemaPath? p' s',
          (t.withContent q content).locate path = .ok q := by
        simpa only [schemaPath?_of_alike halike, FileTree.locate_withContent] using hreads
      refine ⟨?_, (about_toolsetFindings halike hplace fun path hsome hq htext => ?_).symm⟩
      · rw [hend s' hs (.inr hreads), hend' s' hs' (.inr hreads')]
      · have hpath := schemaPath_proper hindexed ht hproper habsolute hs hsome
        exact hne (Path.text_injective hpath.1 hfile.1 hpath.2 hfile.2 htext ▸ hq)
    · rw [toolsetFindings_withContent halike hplace
        fun path hsome hq => hreads ⟨path, hsome, hq⟩]
      exact Agree.refl _

end Locality

/-- The rules about agents and about toolsets are local. Let the content of a file be replaced by
anything with which the package still has a model, and let the manifest of an entity be another
file. If checking the entities that read the replaced file fails neither before nor after, the rule
reports the same issues about the manifest of the entity. For toolsets, none that is read from the
file may have that manifest for its schema. -/
theorem issues_about_withContent {t : FileTree} {cwd path : Path} {p p' : Package} (q : Place)
    (content : ByteArray) (settings : AuditSettings) (ht : t.Proper) (hcwd : cwd.Proper)
    (hpath : path.Proper) (hp : Package.build t cwd path = .ok p)
    (hp' : Package.build (t.withContent q content) cwd path = .ok p') :
    (∀ a ∈ p.agents, t.locate a.manifestPath ≠ .ok q →
        AgentChecksEnd t q p → AgentChecksEnd (t.withContent q content) q p' →
        (agents.findings t p settings).about a.manifestPath.text =
          (agents.findings (t.withContent q content) p' settings).about a.manifestPath.text) ∧
      ∀ a ∈ p.toolsets, t.locate a.entity.manifestPath ≠ .ok q →
        ToolsetChecksEnd t q p → ToolsetChecksEnd (t.withContent q content) q p' →
        NoSchemaAt t q p a.entity.manifestPath →
        NoSchemaAt (t.withContent q content) q p' a.entity.manifestPath →
        (toolsets.findings t p settings).about a.entity.manifestPath.text =
          (toolsets.findings (t.withContent q content) p' settings).about
            a.entity.manifestPath.text := by
  obtain ⟨hresolve, hindexed⟩ := Package.build_eq_ok_iff.mp hp
  obtain ⟨hresolve', hindexed'⟩ := Package.build_eq_ok_iff.mp hp'
  rw [FileTree.resolve_withContent, hresolve] at hresolve'
  have hroot : p'.root = p.root := (Except.ok.inj hresolve').symm
  obtain ⟨hproper, habsolute⟩ := FileTree.resolve_proper hcwd hpath hresolve
  constructor
  · intro a ha hne hend hend'
    exact about_agents hindexed hindexed' hroot ht hproper habsolute ha hne hend hend'
  · intro a ha hne hend hend' hschema hschema'
    exact about_toolsets hindexed hindexed' hroot ht hproper habsolute ha hne hend hend' hschema
      hschema'

section Pair

/-- A package with two agents and two toolsets. The manifests of one agent and of one toolset have
a name that is no text. -/
def pair : FileTree :=
  ⟨[(["pair"], .directory),
    (["pair", "agents"], .directory),
    (["pair", "agents", "back"], .directory),
    (["pair", "agents", "back", "back.json"], .file "\x7b\x7d".toUTF8),
    (["pair", "agents", "desk"], .directory),
    (["pair", "agents", "desk", "desk.json"], .file "\x7b\"displayName\": 1\x7d".toUTF8),
    (["pair", "toolsets"], .directory),
    (["pair", "toolsets", "books"], .directory),
    (["pair", "toolsets", "books", "books.json"], .file "\x7b\x7d".toUTF8),
    (["pair", "toolsets", "orders"], .directory),
    (["pair", "toolsets", "orders", "orders.json"],
      .file "\x7b\"displayName\": 1\x7d".toUTF8)]⟩

/-- The root of the package. -/
def pairRoot : Path := ⟨.root, ["pair"]⟩

/-- The manifest of the first agent. -/
def backPlace : Place := ["pair", "agents", "back", "back.json"]

/-- The manifest of the first toolset. -/
def booksPlace : Place := ["pair", "toolsets", "books", "books.json"]

/-- A manifest of an agent with a child agent that does not exist. -/
def withStrayChild : ByteArray :=
  "\x7b\"childAgents\": [\"nobody\"], \"tools\": 3\x7d".toUTF8

/-- A manifest of a toolset that declares a schema at a path. -/
def withSchema (path : String) : ByteArray :=
  ("\x7b\"openApiToolset\": \x7b\"openApiSchema\": \"" ++ path ++ "\"\x7d\x7d").toUTF8

/-- Whether two computations give results, and these are related. -/
def areRelated {ε α : Type} (x y : Except ε α) (P : α → α → Prop) [∀ a b, Decidable (P a b)] :
    Bool :=
  match x, y with
  | .ok a, .ok b => decide (P a b)
  | _, _ => false

/-- Two results exist and are related if this can be computed. -/
theorem exists_of_both {ε α : Type} {x y : Except ε α} {P : α → α → Prop}
    [∀ a b, Decidable (P a b)] (h : areRelated x y P = true) :
    ∃ a b, x = .ok a ∧ y = .ok b ∧ P a b := by
  cases x with
  | error e => cases h
  | ok a =>
    cases y with
    | error e => cases h
    | ok b => exact ⟨a, b, rfl, rfl, of_decide_eq_true h⟩

set_option maxRecDepth 10000 in
/-- Other manifests of the first agent and of the first toolset leave the issue about the second
ones as it is. -/
theorem issues_about_pair :
    (∃ p p', Package.build pair pairRoot pairRoot = .ok p ∧
        Package.build (pair.withContent backPlace withStrayChild) pairRoot pairRoot = .ok p' ∧
        ∃ a ∈ p.agents, (agents.findings pair p {}).about a.manifestPath.text ≠ [] ∧
          (agents.findings pair p {}).about a.manifestPath.text =
            (agents.findings (pair.withContent backPlace withStrayChild) p' {}).about
              a.manifestPath.text) ∧
      ∃ p p', Package.build pair pairRoot pairRoot = .ok p ∧
        Package.build (pair.withContent booksPlace (withSchema "nowhere.yaml")) pairRoot
          pairRoot = .ok p' ∧
        ∃ a ∈ p.toolsets, (toolsets.findings pair p {}).about a.entity.manifestPath.text ≠ [] ∧
          (toolsets.findings pair p {}).about a.entity.manifestPath.text =
            (toolsets.findings (pair.withContent booksPlace (withSchema "nowhere.yaml")) p'
              {}).about a.entity.manifestPath.text := by
  have hpair : pair.Proper := by decide +kernel
  have hroot : pairRoot.Proper := by decide +kernel
  constructor
  · obtain ⟨p, p', hp, hp', a, ha, hne, hend, hend', hsome⟩ := exists_of_both
      (x := Package.build pair pairRoot pairRoot)
      (y := Package.build (pair.withContent backPlace withStrayChild) pairRoot pairRoot)
      (P := fun p p' => ∃ a ∈ p.agents, pair.locate a.manifestPath ≠ .ok backPlace ∧
        AgentChecksEnd pair backPlace p ∧
        AgentChecksEnd (pair.withContent backPlace withStrayChild) backPlace p' ∧
        (agents.findings pair p {}).about a.manifestPath.text ≠ [])
      (by decide +kernel)
    refine ⟨p, p', hp, hp', a, ha, hsome, ?_⟩
    exact (issues_about_withContent backPlace withStrayChild {} hpair hroot hroot hp hp').1 a ha hne
      hend hend'
  · obtain ⟨p, p', hp, hp', a, ha, hne, hend, hend', hschema, hschema', hsome⟩ := exists_of_both
      (x := Package.build pair pairRoot pairRoot)
      (y := Package.build (pair.withContent booksPlace (withSchema "nowhere.yaml")) pairRoot
        pairRoot)
      (P := fun p p' => ∃ a ∈ p.toolsets,
        pair.locate a.entity.manifestPath ≠ .ok booksPlace ∧ ToolsetChecksEnd pair booksPlace p ∧
        ToolsetChecksEnd (pair.withContent booksPlace (withSchema "nowhere.yaml")) booksPlace p' ∧
        NoSchemaAt pair booksPlace p a.entity.manifestPath ∧
        NoSchemaAt (pair.withContent booksPlace (withSchema "nowhere.yaml")) booksPlace p'
          a.entity.manifestPath ∧
        (toolsets.findings pair p {}).about a.entity.manifestPath.text ≠ [])
      (by decide +kernel)
    refine ⟨p, p', hp, hp', a, ha, hsome, ?_⟩
    exact (issues_about_withContent booksPlace (withSchema "nowhere.yaml") {} hpair hroot hroot hp
      hp').2 a ha hne hend hend' hschema hschema'

set_option maxRecDepth 10000 in
/-- The rule about toolsets is not local where a toolset has the manifest of another one for its
schema: then the schema is found to have no version, and this is about the other manifest. -/
theorem issues_about_not_local :
    ∃ p p', Package.build pair pairRoot pairRoot = .ok p ∧
      Package.build (pair.withContent booksPlace (withSchema "toolsets/orders/orders.json"))
        pairRoot pairRoot = .ok p' ∧
      ∃ a ∈ p.toolsets, ∃ b ∈ p.toolsets, a.entity.name ≠ b.entity.name ∧
        pair.locate a.entity.manifestPath ≠ .ok booksPlace ∧
        pair.locate b.entity.manifestPath = .ok booksPlace ∧
        (toolsets.findings pair p {}).failure = none ∧
        (toolsets.findings
          (pair.withContent booksPlace (withSchema "toolsets/orders/orders.json")) p'
          {}).failure = none ∧
        (toolsets.findings pair p {}).about a.entity.manifestPath.text ≠
          (toolsets.findings
            (pair.withContent booksPlace (withSchema "toolsets/orders/orders.json")) p'
            {}).about a.entity.manifestPath.text := by
  apply exists_of_both
  decide +kernel

end Pair

end Audit

end AgentPackage
