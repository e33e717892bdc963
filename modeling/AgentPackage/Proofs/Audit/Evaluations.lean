import AgentPackage.Proofs.Audit.Codes
import AgentPackage.Proofs.Document
import AgentPackage.Proofs.Package.Closed
import Mathlib.Data.List.Range
import Mathlib.Data.Prod.Lex

/-!
# Calls that evaluations expect

The conversation of an evaluation may hold anything anywhere, and the calls that it expects are
found wherever the way from a turn to the name of a tool is there. This module lists them by turn
and step and shows that the rule about evaluations reports one issue for each call that the package
refuses, in this order and under the turn in which it stands, and no issue for anything else.

## Main definitions

* `EvaluationManifest.Expected`: a step of a turn expects the call of a tool;
* `EvaluationManifest.calls`: the calls that are expected, by turn and step;
* `Package.Refuses`: what is wrong with the call of a tool;
* `CallFault.Tells`: an issue tells what is wrong with a call.

## Main results

* `mem_calls`, `pairwise_calls`: each call that is expected is listed once, in order;
* `expectedCall_settles`: a call is reported exactly when it is refused;
* `callIssues_evaluations`: the issues about calls that the rule reports.
-/

namespace AgentPackage

/-- A call that is expected: a turn and a step of it, counted from zero, and the name of a tool. -/
structure ExpectedCall where
  /-- The turn. -/
  turn : Nat
  /-- The step of the turn. -/
  step : Nat
  /-- The tool. -/
  tool : String
  deriving DecidableEq, Repr

/-- Where the call stands: by turn, then by step. -/
def ExpectedCall.place (c : ExpectedCall) : ℕ ×ₗ ℕ :=
  toLex (c.turn, c.step)

namespace EvaluationManifest

variable {m : EvaluationManifest}

/-- The step of the turn expects the call of the tool, whose name is not blank. What other turns and
steps hold does not matter. -/
def Expected (m : EvaluationManifest) (c : ExpectedCall) : Prop :=
  ∃ golden turns turn steps step expectation call,
    m.golden = some golden ∧ Fields.get? golden "turns" = some (.list turns) ∧
      turns[c.turn]? = some turn ∧ field? "steps" turn = some (.list steps) ∧
      steps[c.step]? = some step ∧ field? "expectation" step = some expectation ∧
      field? "toolCall" expectation = some call ∧ field? "tool" call = some (.str c.tool) ∧
      Text.isAllBlank c.tool = false

/-- The turns of the conversation. -/
def turns (m : EvaluationManifest) : List Value :=
  (m.golden.bind fun g => (Fields.get? g "turns").bind Value.list?).getD []

/-- The steps of a turn. -/
def stepsOf (turn : Value) : List Value :=
  ((field? "steps" turn).bind Value.list?).getD []

/-- The calls that a turn expects, with the number of the turn. -/
def callsOf (turn : Value × Nat) : List ExpectedCall :=
  (stepsOf turn.1).zipIdx.filterMap fun s => (expectedTool? s.1).map (ExpectedCall.mk turn.2 s.2)

/-- The calls that the conversation expects, turn by turn and step by step. -/
def calls (m : EvaluationManifest) : List ExpectedCall :=
  m.turns.zipIdx.flatMap callsOf

theorem list?_eq_some {v : Value} {xs : List Value} : v.list? = some xs ↔ v = .list xs := by
  cases v <;> simp [Value.list?]

/-- The tool whose call a step expects is what stands at the end of the way to it. -/
theorem expectedTool?_eq_some_iff {step : Value} {tool : String} :
    expectedTool? step = some tool ↔
      ∃ expectation call, field? "expectation" step = some expectation ∧
        field? "toolCall" expectation = some call ∧ field? "tool" call = some (.str tool) ∧
        Text.isAllBlank tool = false := by
  constructor
  · -- the way is there, and what stands at its end is a text that is not blank
    intro h
    simp only [expectedTool?, Option.bind_eq_bind, Option.bind_eq_some_iff] at h
    obtain ⟨expectation, hexpectation, call, hcall, v, hv, name, hname, h⟩ := h
    split at h
    · cases h
    · rename_i hblank
      cases h
      refine ⟨expectation, call, hexpectation, hcall, ?_, by simpa using hblank⟩
      -- only a string has a text
      cases v with
      | str s =>
        cases hname
        exact hv
      | _ => cases hname
  · rintro ⟨expectation, call, hexpectation, hcall, htool, hblank⟩
    exact expectedTool?_eq_some hexpectation hcall htool hblank

theorem getElem?_turns {n : Nat} {turn : Value} :
    m.turns[n]? = some turn ↔ ∃ golden ts, m.golden = some golden ∧
      Fields.get? golden "turns" = some (.list ts) ∧ ts[n]? = some turn := by
  unfold turns
  cases hturns : m.golden.bind fun g => (Fields.get? g "turns").bind Value.list? with
  | none =>
    simp only [Option.getD_none, List.getElem?_nil, reduceCtorEq, false_iff]
    rintro ⟨golden, ts, hgolden, hts, -⟩
    rw [hgolden, Option.bind_some, hts] at hturns
    cases hturns
  | some ts =>
    simp only [Option.bind_eq_some_iff, list?_eq_some] at hturns
    obtain ⟨golden, hgolden, _, hts, rfl⟩ := hturns
    rw [Option.getD_some]
    constructor
    · exact fun h => ⟨golden, ts, hgolden, hts, h⟩
    · rintro ⟨golden', ts', hgolden', hts', h⟩
      cases hgolden.symm.trans hgolden'
      cases hts.symm.trans hts'
      exact h

theorem getElem?_stepsOf {turn : Value} {n : Nat} {step : Value} :
    (stepsOf turn)[n]? = some step ↔
      ∃ steps, field? "steps" turn = some (.list steps) ∧ steps[n]? = some step := by
  unfold stepsOf
  cases hsteps : (field? "steps" turn).bind Value.list? with
  | none =>
    simp only [Option.getD_none, List.getElem?_nil, reduceCtorEq, false_iff]
    rintro ⟨steps, h, -⟩
    rw [h] at hsteps
    cases hsteps
  | some steps =>
    simp only [Option.bind_eq_some_iff, list?_eq_some] at hsteps
    obtain ⟨_, hsteps, rfl⟩ := hsteps
    rw [Option.getD_some]
    constructor
    · exact fun h => ⟨steps, hsteps, h⟩
    · rintro ⟨steps', hsteps', h⟩
      cases hsteps.symm.trans hsteps'
      exact h

/-- The calls that are listed are the ones that are expected. -/
theorem mem_calls {c : ExpectedCall} : c ∈ m.calls ↔ m.Expected c := by
  simp only [calls, callsOf, List.mem_flatMap, List.mem_filterMap, Prod.exists,
    List.mem_zipIdx_iff_getElem?, getElem?_turns, getElem?_stepsOf, Option.map_eq_some_iff,
    expectedTool?_eq_some_iff]
  constructor
  · rintro ⟨turn, i, ⟨golden, turns, hgolden, hturns, hturn⟩, step, j, ⟨steps, hsteps, hstep⟩, tool,
      ⟨expectation, call, hexpectation, hcall, htool, hblank⟩, rfl⟩
    exact ⟨golden, turns, turn, steps, step, expectation, call, hgolden, hturns, hturn, hsteps,
      hstep, hexpectation, hcall, htool, hblank⟩
  · rintro ⟨golden, turns, turn, steps, step, expectation, call, hgolden, hturns, hturn, hsteps,
      hstep, hexpectation, hcall, htool, hblank⟩
    exact ⟨turn, c.turn, ⟨golden, turns, hgolden, hturns, hturn⟩, step, c.step,
      ⟨steps, hsteps, hstep⟩, c.tool, ⟨expectation, call, hexpectation, hcall, htool, hblank⟩, rfl⟩

/-- Numbered values stand in the order of their numbers. -/
theorem pairwise_zipIdx (xs : List Value) : xs.zipIdx.Pairwise fun a b => a.2 < b.2 := by
  rw [← List.pairwise_map (f := Prod.snd), List.zipIdx_map_snd]
  exact List.pairwise_lt_range'

/-- The calls are listed in the order of their places, each place once. -/
theorem pairwise_calls (m : EvaluationManifest) :
    m.calls.Pairwise fun a b => a.place < b.place := by
  unfold calls
  rw [List.pairwise_flatMap]
  constructor
  · -- within a turn the calls stand in the order of the steps
    intro turn _
    unfold callsOf
    refine (List.pairwise_filterMap).mpr ((pairwise_zipIdx _).imp fun hstep a ha b hb => ?_)
    obtain ⟨_, -, rfl⟩ := Option.map_eq_some_iff.mp ha
    obtain ⟨_, -, rfl⟩ := Option.map_eq_some_iff.mp hb
    exact Prod.Lex.toLex_lt_toLex.mpr (.inr ⟨rfl, hstep⟩)
  · -- those of an earlier turn stand in front of those of a later one
    have hturn : ∀ (turn : Value × Nat), ∀ c ∈ callsOf turn, c.turn = turn.2 := by
      intro turn c hc
      obtain ⟨s, -, hs⟩ := List.mem_filterMap.mp hc
      obtain ⟨_, -, rfl⟩ := Option.map_eq_some_iff.mp hs
      rfl
    refine (pairwise_zipIdx _).imp fun {t t'} hlt a ha b hb => ?_
    refine Prod.Lex.toLex_lt_toLex.mpr (.inl ?_)
    rw [hturn t a ha, hturn t' b hb]
    exact hlt

/-- What the rule about evaluations goes through are the calls without their steps. -/
theorem expectedToolCalls_eq (m : EvaluationManifest) :
    m.expectedToolCalls = m.calls.map fun c => (c.turn, c.tool) := by
  have htools : ∀ turn : Value × Nat,
      (callsOf turn).map (fun c => (c.turn, c.tool)) =
        (turnTools turn.1).map fun name => (turn.2, name) := by
    intro turn
    have hsteps : turnTools turn.1 = (stepsOf turn.1).filterMap expectedTool? := by
      unfold turnTools stepsOf
      cases (field? "steps" turn.1).bind Value.list? <;> rfl
    -- the numbers of the steps are dropped again
    have hnumbers : ((stepsOf turn.1).zipIdx.map Prod.fst).filterMap expectedTool? =
        (stepsOf turn.1).filterMap expectedTool? := by rw [List.zipIdx_map_fst]
    rw [hsteps, ← hnumbers, callsOf, List.filterMap_map, List.map_filterMap, List.map_filterMap]
    refine List.filterMap_congr fun s _ => ?_
    cases h : expectedTool? s.1 <;> simp [h]
  unfold expectedToolCalls calls turns
  cases m.golden.bind fun g => (Fields.get? g "turns").bind Value.list? with
  | none => rfl
  | some ts =>
    simp only [Option.getD_some, List.map_flatMap]
    exact List.flatMap_congr fun turn _ => (htools turn).symm

end EvaluationManifest

/-- What is wrong with the call of a tool that an evaluation expects. -/
inductive CallFault where
  /-- The tool is an operation of a toolset. -/
  | operation
  /-- The tool is none of the direct tools. -/
  | unknown
  deriving DecidableEq, Repr

/-- What is wrong with the call of a tool in a package. That it is an operation comes first, even
where it is a direct tool as well. -/
inductive Package.Refuses (p : Package) (tool : String) : CallFault → Prop where
  /-- The tool is an operation, with its toolset in front or without. -/
  | operation (h : tool ∈ p.inventory.operations ∨ tool ∈ p.inventory.namespaced) :
      Refuses p tool .operation
  /-- The tool is none of the direct tools, of which there are some, nor an operation. -/
  | unknown (h : ¬ (tool ∈ p.inventory.operations ∨ tool ∈ p.inventory.namespaced))
      (hsome : p.directTools ≠ []) (hmissing : tool ∉ p.directTools) : Refuses p tool .unknown

/-- At most one thing is wrong with a call. -/
theorem Package.Refuses.unique {p : Package} {tool : String} {fault fault' : CallFault}
    (h : p.Refuses tool fault) (h' : p.Refuses tool fault') : fault = fault' := by
  cases h with
  | operation ho =>
    cases h' with
    | operation _ => rfl
    | unknown hno _ _ => exact absurd ho hno
  | unknown hno _ _ =>
    cases h' with
    | operation ho => exact absurd ho hno
    | unknown _ _ _ => rfl

namespace CallFault

/-- The code of the issue about a call. -/
def code : CallFault → String
  | operation => "CES_EVALUATION_TOOLCALL_OPENAPI_OPERATION"
  | unknown => "CES_EVALUATION_TOOLCALL_UNKNOWN"

/-- What the issue about a call says, behind the words for the call. -/
def message (p : Package) (call : String) : CallFault → String
  | operation =>
    call ++ " is an OpenAPI operation, not a direct tool. " ++
      "Evaluations must expect direct tools only."
  | unknown =>
    call ++ " not found in any agent's tools list. Known tools: [" ++
      ", ".intercalate p.directTools ++ "]"

/-- The issue about a call of an evaluation: an error about its manifest that names the turn,
counted from one, and the tool. -/
def issue (p : Package) (e : Entity EvaluationManifest) (c : ExpectedCall) (line : Option Nat)
    (fault : CallFault) : Issue :=
  ⟨fault.code,
    fault.message p ("Evaluation '" ++ e.name ++ "' turn " ++ toString (c.turn + 1) ++
      ": toolCall '" ++ c.tool ++ "'"),
    .error, e.manifestPath.text, line.map Int.ofNat⟩

/-- The issue is the one about a call, and it points to the first line of the manifest that holds
the name of the tool. -/
def Tells (t : FileTree) (p : Package) (e : Entity EvaluationManifest) (c : ExpectedCall)
    (fault : CallFault) (i : Issue) : Prop :=
  ∃ line, Document.lineContaining t e.manifestPath c.tool = .ok line ∧ i = fault.issue p e c line

end CallFault

/-- Whether an issue is about a call that an evaluation expects. -/
def Issue.isAboutCall (i : Issue) : Bool :=
  i.code == CallFault.operation.code || i.code == CallFault.unknown.code

/-- The issues about calls among findings. -/
def Findings.callIssues (f : Findings) : List Issue :=
  f.issues.filter Issue.isAboutCall

theorem CallFault.Tells.isAboutCall {t : FileTree} {p : Package} {e : Entity EvaluationManifest}
    {c : ExpectedCall} {fault : CallFault} {i : Issue} (h : fault.Tells t p e c i) :
    i.isAboutCall = true := by
  obtain ⟨line, -, rfl⟩ := h
  cases fault with
  | operation => simp [Issue.isAboutCall, CallFault.issue]
  | unknown => simp [Issue.isAboutCall, CallFault.issue]

namespace Rule

open Findings

variable {t : FileTree} {p : Package} {settings : AuditSettings} {e : Entity EvaluationManifest}

section Calls

variable (hname : FileTree.isNameable e.manifestPath = true)

include hname

/-- A call that the package refuses is reported as one issue, and no other call is reported. -/
theorem expectedCall_settles (t : FileTree) (p : Package) (c : ExpectedCall) :
    (∃ fault i, p.Refuses c.tool fault ∧ fault.Tells t p e c i ∧
        expectedCall t p e c.turn c.tool = one i) ∨
      ((∀ fault, ¬ p.Refuses c.tool fault) ∧ expectedCall t p e c.turn c.tool = nothing) := by
  -- the line is found whatever the tool, so two questions about the tool are left
  obtain ⟨line, hline⟩ := exists_lineContaining hname t c.tool
  have hcall : expectedCall t p e c.turn c.tool =
      if p.inventory.isOperation c.tool then one (CallFault.operation.issue p e c line)
      else when (!p.directTools.isEmpty && !p.directTools.contains c.tool)
        (one (CallFault.unknown.issue p e c line)) := by
    simp only [expectedCall, hline, check, error, CallFault.issue, CallFault.code,
      CallFault.message]
  have hoperation : p.inventory.isOperation c.tool = true ↔
      c.tool ∈ p.inventory.operations ∨ c.tool ∈ p.inventory.namespaced := by
    simp [Inventory.isOperation]
  have hmissing : (!p.directTools.isEmpty && !p.directTools.contains c.tool) = true ↔
      p.directTools ≠ [] ∧ c.tool ∉ p.directTools := by
    simp
  rw [hcall]
  -- that the tool is an operation is asked first
  by_cases ho : p.inventory.isOperation c.tool = true
  · rw [if_pos ho]
    exact .inl ⟨_, _, .operation (hoperation.mp ho), ⟨line, hline, rfl⟩, rfl⟩
  · rw [if_neg ho]
    have ho := fun h => ho (hoperation.mpr h)
    by_cases hm : (!p.directTools.isEmpty && !p.directTools.contains c.tool) = true
    · obtain ⟨hsome, hnot⟩ := hmissing.mp hm
      rw [hm]
      exact .inl ⟨_, _, .unknown ho hsome hnot, ⟨line, hline, rfl⟩, rfl⟩
    · rw [Bool.eq_false_of_not_eq_true hm]
      refine .inr ⟨fun fault hfault => ?_, rfl⟩
      cases hfault with
      | operation h => exact ho h
      | unknown _ hsome hnot => exact hm (hmissing.mpr ⟨hsome, hnot⟩)

/-- Of some calls the refused ones are reported, each once and in their order. -/
theorem expectedCalls_settle (t : FileTree) (p : Package) (cs : List ExpectedCall) :
    (all cs fun c => expectedCall t p e c.turn c.tool).failure = none ∧
      ∃ refused : List (ExpectedCall × CallFault), (refused.map Prod.fst).Sublist cs ∧
        (∀ c fault, (c, fault) ∈ refused ↔ c ∈ cs ∧ p.Refuses c.tool fault) ∧
        List.Forall₂ (fun r i => r.2.Tells t p e r.1 i) refused
          (all cs fun c => expectedCall t p e c.turn c.tool).issues := by
  -- along the calls; a call that is not refused leaves the list of those behind it as it is
  induction cs with
  | nil => exact ⟨rfl, [], .slnil, by simp, .nil⟩
  | cons c cs ih =>
    obtain ⟨hfailure, refused, hsub, hmem, htells⟩ := ih
    show (expectedCall t p e c.turn c.tool ++ all cs _).failure = none ∧ ∃ refused, _ ∧ _ ∧
      List.Forall₂ _ refused (expectedCall t p e c.turn c.tool ++ all cs _).issues
    rcases expectedCall_settles hname t p c with ⟨fault, i, hfault, hi, hone⟩ | ⟨hnone, hnothing⟩
    · rw [hone, issues_append rfl, failure_append_eq_none]
      refine ⟨⟨rfl, hfailure⟩, (c, fault) :: refused, hsub.cons_cons c, fun c' fault' => ?_,
        .cons hi htells⟩
      rw [List.mem_cons, List.mem_cons, hmem, Prod.mk.injEq]
      constructor
      · rintro (⟨rfl, rfl⟩ | ⟨hc', hfault'⟩)
        · exact ⟨.inl rfl, hfault⟩
        · exact ⟨.inr hc', hfault'⟩
      · rintro ⟨rfl | hc', hfault'⟩
        · exact .inl ⟨rfl, hfault'.unique hfault⟩
        · exact .inr ⟨hc', hfault'⟩
    · rw [hnothing, nothing_append]
      refine ⟨hfailure, refused, hsub.cons c, fun c' fault' => ?_, htells⟩
      rw [hmem, List.mem_cons]
      constructor
      · exact fun ⟨hc', hfault'⟩ => ⟨.inr hc', hfault'⟩
      · rintro ⟨rfl | hc', hfault'⟩
        · exact absurd hfault' (hnone fault')
        · exact ⟨hc', hfault'⟩

end Calls

/-- The issues are those about the calls of an evaluation that the package refuses: one for each, in
the order of turns and of steps. -/
def ReportsRefused (t : FileTree) (p : Package) (e : Entity EvaluationManifest)
    (m : EvaluationManifest) (issues : List Issue) : Prop :=
  ∃ refused : List (ExpectedCall × CallFault),
    refused.Pairwise (fun a b => a.1.place < b.1.place) ∧
      (∀ c fault, (c, fault) ∈ refused ↔ m.Expected c ∧ p.Refuses c.tool fault) ∧
      List.Forall₂ (fun r i => r.2.Tells t p e r.1 i) refused issues

section Evaluation

/-- The issues about calls of a pair are those of its parts. -/
theorem callIssues_append {a b : Findings} (h : a.failure = none) :
    (a ++ b).callIssues = a.callIssues ++ b.callIssues := by
  unfold callIssues
  rw [issues_append h, List.filter_append]

theorem callIssues_eq_nil {f : Findings} (h : f.Only fun i => i.isAboutCall = false) :
    f.callIssues = [] :=
  List.filter_eq_nil_iff.mpr fun i hi => Bool.eq_false_iff.mp (h i hi)

/-- Nothing is found about calls where the name and the fields of an evaluation are checked. -/
theorem evaluationName_settles (hname : FileTree.isNameable e.manifestPath = true) (t : FileTree)
    (m : EvaluationManifest) :
    (evaluationName t e m).failure = none ∧ (evaluationName t e m).callIssues = [] := by
  unfold evaluationName
  cases m.displayName with
  | none => exact ⟨rfl, rfl⟩
  | some name =>
    refine ⟨failure_when (failure_warningAt hname), callIssues_eq_nil ?_⟩
    exact only_when (only_warningAt fun _ => by simp [Issue.isAboutCall, CallFault.code])

/-- The calls of an evaluation that the package refuses are reported. -/
theorem evaluationFindings_settles {m : EvaluationManifest} (herror : e.error = none)
    (hmanifest : e.manifest = some m) (hname : FileTree.isNameable e.manifestPath = true)
    (t : FileTree) (p : Package) :
    (evaluationFindings t p e).failure = none ∧
      ReportsRefused t p e m (evaluationFindings t p e).callIssues := by
  obtain ⟨hcalls, refused, hsub, hmem, htells⟩ := expectedCalls_settle hname t p m.calls
  obtain ⟨hnaming, hnamed⟩ := evaluationName_settles hname t m
  have hfindings : evaluationFindings t p e =
      fieldErrors t "CES_EVALUATION_FIELD_INVALID" ("Evaluation '" ++ e.name ++ "'")
        e.manifestPath e.fieldIssues ++ evaluationName t e m ++
      all m.calls fun c => expectedCall t p e c.turn c.tool := by
    simp only [evaluationFindings, herror, hmanifest, EvaluationManifest.expectedToolCalls_eq,
      all_map]
  have hfront : (fieldErrors t "CES_EVALUATION_FIELD_INVALID" ("Evaluation '" ++ e.name ++ "'")
      e.manifestPath e.fieldIssues ++ evaluationName t e m).failure = none :=
    failure_append_eq_none.mpr ⟨failure_fieldErrors hname, hnaming⟩
  rw [hfindings]
  refine ⟨failure_append_eq_none.mpr ⟨hfront, hcalls⟩, refused, ?_, fun c fault => ?_, ?_⟩
  · have hplaces := (EvaluationManifest.pairwise_calls m).sublist hsub
    rwa [List.pairwise_map] at hplaces
  · rw [hmem, EvaluationManifest.mem_calls]
  · -- what is found about the fields and the name is not about calls
    have hfields : (fieldErrors t "CES_EVALUATION_FIELD_INVALID" ("Evaluation '" ++ e.name ++ "'")
        e.manifestPath e.fieldIssues).callIssues = [] :=
      callIssues_eq_nil (only_fieldErrors fun _ _ => by simp [Issue.isAboutCall, CallFault.code])
    have hall : (all m.calls fun c => expectedCall t p e c.turn c.tool).callIssues =
        (all m.calls fun c => expectedCall t p e c.turn c.tool).issues := by
      refine List.filter_eq_self.mpr fun i hi => ?_
      obtain ⟨r, -, hr⟩ := htells.exists_of_mem_right hi
      exact hr.isAboutCall
    rw [callIssues_append hfront, callIssues_append (failure_fieldErrors hname), hfields, hnamed,
      hall]
    exact htells

/-- An evaluation without a manifest has no calls that are reported. -/
theorem evaluationFindings_of_none (hmanifest : e.manifest = none) (t : FileTree) (p : Package) :
    (evaluationFindings t p e).failure = none ∧ (evaluationFindings t p e).callIssues = [] := by
  unfold evaluationFindings
  rw [hmanifest]
  cases e.error with
  | none => exact ⟨rfl, rfl⟩
  | some reason =>
    exact ⟨rfl, callIssues_eq_nil (only_error (by simp [Issue.isAboutCall, CallFault.code]))⟩

end Evaluation

/-- The rule about evaluations reports the calls that a package refuses. It does not fail; the
issues about calls are those of the evaluations, one evaluation after another; and an evaluation
with a manifest has one for each call that is refused, by turn and step, and none for anything else.
The package was indexed in a tree `t₀`, which may have changed since into `t`. -/
theorem callIssues_evaluations {t₀ : FileTree} (hindexed : p.Indexed t₀) (t : FileTree)
    (settings : AuditSettings) :
    (evaluations.findings t p settings).failure = none ∧
      (evaluations.findings t p settings).callIssues =
        p.evaluations.flatMap (fun e => (evaluationFindings t p e).callIssues) ∧
      ∀ e ∈ p.evaluations,
        (e.manifest = none → (evaluationFindings t p e).callIssues = []) ∧
          ∀ m, e.manifest = some m →
            ReportsRefused t p e m (evaluationFindings t p e).callIssues := by
  -- a manifest was read from a file with a name, in which lines can be looked for
  obtain ⟨dirs, -, hes⟩ := Index.evaluations_eq_ok_iff.mp hindexed.evaluations
  have hloaded : ∀ e ∈ p.evaluations, ∀ m, e.manifest = some m →
      (evaluationFindings t p e).failure = none ∧
        ReportsRefused t p e m (evaluationFindings t p e).callIssues := by
    intro e he m hm
    obtain ⟨dir, -, hentity⟩ := hes.exists_of_mem_right he
    obtain ⟨herror, _, _, _, hread, -⟩ := Index.loaded_of_manifest hentity hm
    exact evaluationFindings_settles herror hm (Document.isNameable_of_read hread) t p
  have hfailure : (evaluations.findings t p settings).failure = none := by
    refine failure_all_eq_none.mpr fun e he => ?_
    cases hm : e.manifest with
    | none => exact (evaluationFindings_of_none hm t p).1
    | some m => exact (hloaded e he m hm).1
  refine ⟨hfailure, ?_, fun e he => ⟨fun hm => (evaluationFindings_of_none hm t p).2,
    fun m hm => (hloaded e he m hm).2⟩⟩
  unfold callIssues
  rw [← List.filter_flatMap]
  exact congrArg _ (issues_all hfailure)

section Practice

/-- A package with a script tool that is an operation as well, and an evaluation in which some turns
and steps are malformed. -/
def practice : FileTree :=
  ⟨[(["tools"], .directory), (["tools", "refund"], .directory),
    (["toolsets"], .directory), (["toolsets", "orders"], .directory),
    (["toolsets", "orders", "orders.json"], .file "\x7b\"toolIds\":[\"refund\"]\x7d".toUTF8),
    (["evaluations"], .directory), (["evaluations", "order"], .directory),
    (["evaluations", "order", "order.json"],
      .file ("\x7b\"golden\":\x7b\"turns\":[7,\x7b\"steps\":[null,\n" ++
        "\x7b\"expectation\":\x7b\"toolCall\":\x7b\"tool\":\"refund\"\x7d\x7d\x7d]\x7d,\n" ++
        "\x7b\"steps\":1\x7d,\x7b\"steps\":[\x7b\"expectation\":[]\x7d,\n" ++
        "\x7b\"expectation\":\x7b\"toolCall\":\x7b\"tool\":\"ship\"\x7d\x7d\x7d]\x7d]\x7d\x7d"
        ).toUTF8)]⟩

set_option maxRecDepth 10000 in
/-- In the package the call of an operation is reported although it is a direct tool too, and so is
that of a tool that there is not. -/
theorem callIssues_evaluations_practice :
    ∃ p, Package.index practice ⟨.root, []⟩ = .ok p ∧ p.Indexed practice ∧
      ((evaluations.findings practice p {}).callIssues.map fun i => (i.code, i.line)) =
        [(CallFault.operation.code, some 2), (CallFault.unknown.code, some 4)] ∧
      (evaluations.findings practice p {}).failure = none ∧
      ∀ e ∈ p.evaluations, ∀ m, e.manifest = some m →
        ReportsRefused practice p e m (evaluationFindings practice p e).callIssues := by
  have hrun : ∃ p, Package.index practice ⟨.root, []⟩ = .ok p ∧
      ((evaluations.findings practice p {}).callIssues.map fun i => (i.code, i.line)) =
        [(CallFault.operation.code, some 2), (CallFault.unknown.code, some 4)] := by
    decide +kernel
  obtain ⟨p, hindex, hissues⟩ := hrun
  have hindexed := (Package.index_eq_ok_iff.mp hindex).2
  obtain ⟨hfailure, -, hevaluations⟩ := callIssues_evaluations hindexed practice {}
  exact ⟨p, hindex, hindexed, hissues, hfailure, fun e he => (hevaluations e he).2⟩

end Practice

end Rule

end AgentPackage
