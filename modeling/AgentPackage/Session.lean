import AgentPackage.Audit.Run
import AgentPackage.FileTree.Write

/-!
# Sessions

A session holds a file tree that changes and the model of a package that was built from it at
some time. Questions about the model are answered from that time's listing, audits of the model
read the files of the moment, and building takes a new listing.
-/

namespace AgentPackage

/-- What a session holds. -/
structure Session where
  /-- The file tree of the moment. -/
  tree : FileTree
  /-- The working directory. -/
  cwd : Path
  /-- The root directory of the package. -/
  root : Path
  /-- The model that was built last, if one was. -/
  package : Option Package := none

namespace Session

/-- What can be asked of a session. -/
inductive Step where
  /-- Builds the model. -/
  | build
  /-- Stores an entry under a path. -/
  | write (path : Path) (entry : Entry)
  /-- Removes what stands under a path. -/
  | remove (path : Path)
  /-- Audits the last model and asks for the issues. -/
  | issues (settings : AuditSettings)
  /-- Builds a model, which the session does not keep, and audits it in full. -/
  | audit (settings : AuditSettings)
  /-- Builds a model, which the session does not keep, and runs some rules over it. -/
  | auditBy (rules : List Rule) (settings : AuditSettings)
  /-- Whether a path in the package is a file. -/
  | hasFile (path : String)
  /-- Whether a path in the package is a directory. -/
  | hasDirectory (path : String)
  /-- Whether a path in the package exists. -/
  | pathExists (path : String)
  /-- The manifest of the guardrail of some name. -/
  | guardrail (name : String)
  /-- Whether a name is that of an operation. -/
  | isOperation (name : String)

/-- What a session answers. -/
inductive Answer where
  /-- It is done. -/
  | done
  /-- How many files and directories the model lists. -/
  | listed (files directories : Nat)
  /-- The issues of an audit. -/
  | issues (issues : List Issue)
  /-- The report of an audit, and whether there was a model. -/
  | report (report : Report) (built : Bool)
  /-- Yes or no. -/
  | truth (b : Bool)
  /-- A path, or none. -/
  | path (path : Option Path)
  /-- There is no model to ask. -/
  | noModel
  /-- It failed. -/
  | failed (failure : Failure)

/-- The answer that a result gives, if it is none of a failure. -/
def answer {α : Type} (give : α → Answer) : Except Failure α → Answer
  | .ok a => give a
  | .error f => .failed f

/-- The answer to a question about the last model. -/
def ask (s : Session) (question : Package → Answer) : Answer :=
  match s.package with
  | some p => question p
  | none => .noModel

/-- A path in the package, seen from its root. -/
def inside (s : Session) (path : String) : Path :=
  (FileTree.absolute s.cwd s.root).child path

/-- Changes the file tree, if that does not fail. -/
def change (s : Session) (path : Path) (tree : Except AccessError FileTree) : Session × Answer :=
  match tree with
  | .ok tree => ({ s with tree }, .done)
  | .error e => (s, .failed (.access ⟨e, path.text⟩))

/-- The session after a step, and its answer. -/
def step (s : Session) : Step → Session × Answer
  | .build =>
    match Package.build s.tree s.cwd s.root with
    | .ok p => ({ s with package := some p }, .listed p.files.length p.directories.length)
    | .error f => (s, .failed f)
  | .write path entry => s.change path (s.tree.store path entry)
  | .remove path => s.change path (s.tree.delete path)
  | .issues settings =>
    (s, s.ask fun p => .issues (Audit.runAll s.tree settings p).issues)
  | .audit settings =>
    let (p, report) := Audit.indexAndRun s.tree s.cwd settings s.root
    (s, .report report p.isSome)
  | .auditBy rules settings =>
    (s, answer (fun p => .report (Audit.run s.tree settings rules p) true)
      (Package.build s.tree s.cwd s.root))
  | .hasFile path => (s, s.ask fun p => answer .truth (p.hasFile s.tree (s.inside path)))
  | .hasDirectory path =>
    (s, s.ask fun p => answer .truth (p.hasDirectory s.tree (s.inside path)))
  | .pathExists path => (s, s.ask fun p => answer .truth (p.pathExists s.tree (s.inside path)))
  | .guardrail name => (s, s.ask fun p => answer .path (Guardrail.resolve s.tree p name))
  | .isOperation name => (s, s.ask fun p => .truth (p.inventory.isOperation name))

/-- The session after some steps, and its answers in order. -/
def run (s : Session) : List Step → Session × List Answer
  | [] => (s, [])
  | x :: xs =>
    let (s, a) := s.step x
    let (s, rest) := run s xs
    (s, a :: rest)

end Session

end AgentPackage
