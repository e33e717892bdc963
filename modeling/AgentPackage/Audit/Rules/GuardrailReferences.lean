import AgentPackage.Audit.Findings

/-!
# Guardrails

Each guardrail that the manifest of the package names has to have a manifest of its own. A name
stands for a folder or a file in the folder of guardrails, as it is written or with underscores
for its blanks.
-/

namespace AgentPackage

namespace Guardrail

/-- The name of the folder of guardrails. -/
def folderName : String := "guardrails"

/-- The spellings of a reference under which its manifest is looked for. -/
def spellings (reference : String) : List String :=
  let other := String.ofList (Text.replaceBlankRuns '_' false reference.toList)
  if other == reference then [reference] else [reference, other]

/-- Where the manifest of a guardrail is looked for, in that order: for each spelling in a folder
of that name, then beside the folders. -/
def candidates (root : Path) (reference : String) : List Path :=
  let folder := root.entry folderName
  (spellings reference).flatMap fun s =>
    [(folder.child s).child (s ++ ".json"), folder.child (s ++ ".json")]

/-- The manifest of the guardrail that a reference names. -/
def resolve (t : FileTree) (p : Package) (reference : String) : Except Failure (Option Path) :=
  (candidates p.root reference).findM? (p.hasFile t)

end Guardrail

namespace Rule

/-- The findings about the manifest of a guardrail that `reference` names. -/
def guardrailManifest (t : FileTree) (reference : String) (path : Path)
    (document : Document) : Findings :=
  match document.fields? with
  | none =>
    Findings.error "CES_GUARDRAIL_JSON_INVALID"
      ("guardrail manifest is invalid JSON: " ++ document.error?.getD "") path (some 1)
  | some fields =>
    Findings.check (Manifest.load Manifest.guardrailShape Manifest.guardrail fields)
      fun (guardrail, issues) =>
        Findings.fieldErrors t "CES_GUARDRAIL_FIELD_INVALID" ("Guardrail '" ++ reference ++ "'")
          path issues ++
        Findings.counted "guardrails_resolved" ++
        match guardrail.displayName with
        | none => Findings.nothing
        | some name =>
          Findings.when (Text.trim name != Text.trim reference) <|
            Findings.warningAt t "CES_GUARDRAIL_DISPLAYNAME_MISMATCH"
              ("guardrail displayName '" ++ Text.trim name ++ "' differs from manifest " ++
                "reference '" ++ Text.trim reference ++ "'") path "displayName"

/-- The findings about a reference to a guardrail in the manifest at `path`. -/
def guardrailReference (t : FileTree) (p : Package) (path : Path) (reference : String) :
    Findings :=
  Findings.when (!Text.isAllBlank reference) <|
    Findings.check (Guardrail.resolve t p reference) fun
      | none =>
        Findings.errorAt t "CES_GUARDRAIL_REFERENCE_MISSING"
          ("guardrail reference '" ++ reference ++
            "' does not map to an existing guardrail manifest") path reference
      | some file =>
        Findings.check (Document.read t .json file) (guardrailManifest t reference file)

/-- The rule about the guardrails that the manifest of the package names. -/
def guardrailReferences : Rule where
  name := "guardrail_references"
  findings t p _ :=
    match p.manifest, p.manifestPath? with
    | some manifest, some path =>
      Findings.all (manifest.guardrails.getD []) (guardrailReference t p path)
    | _, _ => Findings.nothing

end Rule

end AgentPackage
