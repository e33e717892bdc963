import AgentPackage.Yaml.Node
import AgentPackage.Proofs.Except

/-!
# What ends the events and the nodes of a YAML text

Events are read from tokens and nodes from events. Neither looks at what a scalar denotes: an error
of a scalar that ends one of them is the one that ended what it is read from. Only the nodes can also
end because there is no room for more calls, which a collection takes for each one inside it.

## Main definitions

* `Yaml.Stems`: an error of a scalar is the one that was there before;
* `Yaml.depth`: how many collections of a text are open at once;
* `Yaml.NodeState.Passes`: what reading nodes does, by the collections that are open;
* `Yaml.compose`: the nodes of a text.

## Main results

* `Yaml.eq_of_ofTokens`: what ends the events ended the tokens;
* `Yaml.NodeState.node_passes`: nodes are read with the collections of the events, as far as there is
  room;
* `Yaml.eq_of_ofEvents?`: what ends the nodes ended the events, or they are nested too deep.
-/

namespace AgentPackage.Yaml

open Except

variable {α β : Type} {failure : Option Error}

/-- An error is not that of a scalar, or it is the one that was there before. -/
def Stems (failure : Option Error) : Error → Prop
  | .scalar f => failure = some (.scalar f)
  | _ => True

theorem stems_getD {problem : String} {mark : Mark} :
    Stems failure (failure.getD (.plain problem mark)) := by
  cases failure with
  | none => exact True.intro
  | some e =>
    cases e with
    | scalar f => exact rfl
    | _ => exact True.intro

namespace EventState

variable {s : EventState}

/-- The reading of events passes on the error behind the tokens, and ends with no other one of a
scalar. -/
def Passes (failure : Option Error) (x : Except Error (α × EventState)) : Prop :=
  x.Ensures (fun r => r.2.failure = failure) (Stems failure)

/-- What follows a reader has the same error behind the tokens. -/
theorem Passes.bind {x : Except Error (α × EventState)} {f : α × EventState → Except Error β}
    {P : β → Prop} (hx : Passes failure x)
    (hf : ∀ a s, s.failure = failure → (f (a, s)).Ensures P (Stems failure)) :
    (x >>= f).Ensures P (Stems failure) :=
  Ensures.bind hx fun r hr => hf r.1 r.2 hr

/-- A look at the next token. -/
theorem peek_bind {f : Token → Except Error β} {P : β → Prop} (h : s.failure = failure)
    (hf : ∀ t, (f t).Ensures P (Stems failure)) : (s.peek >>= f).Ensures P (Stems failure) := by
  have hpeek : s.peek.Ensures (fun _ => True) (Stems failure) := by
    unfold peek
    split
    · exact True.intro
    · rw [h]
      exact stems_getD
  exact hpeek.bind fun t _ => hf t

theorem anchor?_passes (h : s.failure = failure) : Passes failure s.anchor? := by
  refine peek_bind h fun t => ?_
  split
  · exact h
  · exact h

theorem tag?_passes (h : s.failure = failure) : Passes failure s.tag? := by
  refine peek_bind h fun t => ?_
  split
  · exact h
  · exact h

theorem properties_passes (h : s.failure = failure) : Passes failure s.properties := by
  refine (anchor?_passes h).bind fun a s hs => ?_
  dsimp only
  split
  · exact (tag?_passes hs).bind fun tag s hs => hs
  · refine (tag?_passes hs).bind fun tag s hs => ?_
    dsimp only
    split
    · exact (anchor?_passes hs).bind fun a s hs => hs
    · exact hs

theorem expandTag_ensures {p : Properties} :
    (s.expandTag p).Ensures (fun _ => True) (Stems failure) := by
  unfold expandTag
  split
  · exact True.intro
  · exact True.intro
  · split
    · exact True.intro
    · exact True.intro

theorem missing_passes {block inferred : Bool} {p : Properties} {tag : Option String} {start : Mark}
    {t : Token} (h : s.failure = failure) :
    Passes failure (node.missing block p tag inferred start t s) := by
  unfold node.missing
  split
  · exact h
  · exact True.intro

theorem node_passes {block indentless : Bool} (h : s.failure = failure) :
    Passes failure (node block indentless s) := by
  unfold node
  refine peek_bind h fun first => ?_
  split
  · exact h
  · refine (properties_passes h).bind fun p s hs => ?_
    -- what follows the properties decides what kind of node it is
    refine expandTag_ensures.bind fun tag _ => peek_bind hs fun t => ?_
    dsimp only
    split
    · exact .ite hs (missing_passes hs)
    · exact hs
    · exact hs
    · exact hs
    · exact .ite hs (missing_passes hs)
    · exact .ite hs (missing_passes hs)
    · exact missing_passes hs

theorem directives_ensures {budget : ℕ} {version : Bool} (h : s.failure = failure) :
    (directives budget version s).Ensures (·.failure = failure) (Stems failure) := by
  induction budget generalizing version s with
  | zero => exact h
  | succ budget ih =>
    have hdrop : s.drop.failure = failure := h
    unfold directives
    refine peek_bind h fun t => ?_
    split
    · exact .ite True.intro (.ite True.intro (ih hdrop))
    · exact .ite True.intro (ih (s := { s.drop with handles := _ }) hdrop)
    · exact ih hdrop
    · exact h

theorem skipDocumentEnds_ensures {budget : ℕ} (h : s.failure = failure) :
    (skipDocumentEnds budget s).Ensures (·.failure = failure) (Stems failure) := by
  induction budget generalizing s with
  | zero => exact h
  | succ budget ih =>
    unfold skipDocumentEnds
    refine peek_bind h fun t => ?_
    split
    · exact ih (s := s.drop) h
    · exact h

theorem documentStart_passes (h : s.failure = failure) : Passes failure s.documentStart := by
  refine (skipDocumentEnds_ensures h).bind fun s hs => peek_bind hs fun t => ?_
  split
  · exact hs
  · refine (directives_ensures (s := { s with handles := [] }) hs).bind fun s hs => ?_
    refine peek_bind hs fun m => ?_
    split
    · exact hs
    · exact True.intro

theorem implicitDocumentStart_passes (h : s.failure = failure) :
    Passes failure s.implicitDocumentStart := by
  refine peek_bind h fun t => ?_
  split
  · exact documentStart_passes h
  · exact documentStart_passes h
  · exact documentStart_passes h
  · exact h

theorem documentContent_passes (h : s.failure = failure) : Passes failure s.documentContent := by
  refine peek_bind h fun t => ?_
  split
  · exact h
  · exact h
  · exact h
  · exact h
  · exact node_passes h

theorem blockSequenceEntry_passes (h : s.failure = failure) :
    Passes failure s.blockSequenceEntry := by
  refine peek_bind h fun t => ?_
  split
  · refine peek_bind (s := s.drop) h fun n => ?_
    split
    · exact h
    · exact h
    · exact node_passes h
  · exact h
  · exact True.intro

theorem indentlessEntry_passes (h : s.failure = failure) : Passes failure s.indentlessEntry := by
  refine peek_bind h fun t => ?_
  split
  · refine peek_bind (s := s.drop) h fun n => ?_
    split
    · exact h
    · exact h
    · exact h
    · exact h
    · exact node_passes h
  · exact h

theorem blockMappingKey_passes (h : s.failure = failure) : Passes failure s.blockMappingKey := by
  refine peek_bind h fun t => ?_
  split
  · refine peek_bind (s := s.drop) h fun n => ?_
    split
    · exact h
    · exact h
    · exact h
    · exact node_passes h
  · exact h
  · exact True.intro

theorem blockMappingValue_passes (h : s.failure = failure) :
    Passes failure s.blockMappingValue := by
  refine peek_bind h fun t => ?_
  split
  · refine peek_bind (s := s.drop) h fun n => ?_
    split
    · exact h
    · exact h
    · exact h
    · exact node_passes h
  · exact h

theorem flowComma_ensures {first : Bool} {context expected : String} (h : s.failure = failure) :
    (flowComma first context expected s).Ensures (·.failure = failure) (Stems failure) := by
  unfold flowComma
  split
  · exact h
  · refine peek_bind h fun t => ?_
    split
    · exact h
    · exact True.intro

theorem flowSequenceEntry_passes {first : Bool} (h : s.failure = failure) :
    Passes failure (flowSequenceEntry first s) := by
  refine peek_bind h fun t => .ite h ?_
  refine (flowComma_ensures h).bind fun s hs => peek_bind hs fun t => ?_
  split
  · exact hs
  · exact hs
  · exact node_passes hs

theorem flowPairKey_passes (h : s.failure = failure) : Passes failure s.flowPairKey := by
  refine peek_bind h fun t => peek_bind (s := s.drop) h fun n => ?_
  split
  · exact h
  · exact h
  · exact h
  · exact node_passes h

theorem flowPairValue_passes (h : s.failure = failure) : Passes failure s.flowPairValue := by
  refine peek_bind h fun t => ?_
  split
  · refine peek_bind (s := s.drop) h fun n => ?_
    split
    · exact h
    · exact h
    · exact node_passes h
  · exact h

theorem flowMappingKey_passes {first : Bool} (h : s.failure = failure) :
    Passes failure (flowMappingKey first s) := by
  refine peek_bind h fun t => .ite h ?_
  refine (flowComma_ensures h).bind fun s hs => peek_bind hs fun t => ?_
  split
  · refine peek_bind (s := s.drop) hs fun n => ?_
    split
    · exact hs
    · exact hs
    · exact hs
    · exact node_passes hs
  · exact hs
  · exact node_passes hs

theorem flowMappingValue_passes (h : s.failure = failure) :
    Passes failure s.flowMappingValue := by
  refine peek_bind h fun t => ?_
  split
  · refine peek_bind (s := s.drop) h fun n => ?_
    split
    · exact h
    · exact h
    · exact node_passes h
  · exact h

theorem enterNext_ensures (h : s.failure = failure) :
    s.enterNext.Ensures (·.failure = failure) (Stems failure) :=
  peek_bind h fun _ => h

/-- What the reading of events does in each of its states passes on the error behind the tokens. -/
theorem step_passes (h : s.failure = failure) : Passes failure s.step := by
  unfold step
  split
  · exact peek_bind h fun t => h
  · exact implicitDocumentStart_passes h
  · exact documentStart_passes h
  · refine peek_bind h fun t => ?_
    split
    · exact h
    · exact h
  · exact documentContent_passes h
  · exact node_passes h
  · exact (enterNext_ensures h).bind fun s hs => blockSequenceEntry_passes hs
  · exact blockSequenceEntry_passes h
  · exact indentlessEntry_passes h
  · exact (enterNext_ensures h).bind fun s hs => blockMappingKey_passes hs
  · exact blockMappingKey_passes h
  · exact blockMappingValue_passes h
  · exact (enterNext_ensures h).bind fun s hs => flowSequenceEntry_passes hs
  · exact flowSequenceEntry_passes h
  · exact flowPairKey_passes h
  · exact flowPairValue_passes h
  · exact peek_bind h fun t => h
  · exact (enterNext_ensures h).bind fun s hs => flowMappingKey_passes hs
  · exact flowMappingKey_passes h
  · exact flowMappingValue_passes h
  · exact peek_bind h fun t => h
  · rw [h]
    exact stems_getD

theorem run_stems {budget : ℕ} {acc : List Event} (h : s.failure = failure) {e : Error}
    (he : (run budget acc s).2 = some e) : Stems failure e := by
  induction budget generalizing acc s with
  | zero => cases he
  | succ budget ih =>
    unfold run at he
    split at he
    · cases he
    · split at he
      · rename_i heq
        cases he
        exact (step_passes h).of_error heq
      · rename_i heq
        exact ih ((step_passes h).of_ok heq) he

end EventState

/-- If an error of a scalar ends the events, it ended the tokens. -/
theorem eq_of_ofTokens {tokens : List Token} {f : ScalarFault}
    (h : (Event.ofTokens tokens failure).2 = some (.scalar f)) : failure = some (.scalar f) :=
  EventState.run_stems (s := EventState.initial tokens failure) rfl h

/-- How many collections are open at once from an event on before which `level` are. -/
def depthFrom : ℕ → List Event → ℕ
  | level, [] => level
  | level, e :: es =>
    match e.kind with
    | .sequenceStart _ _ | .mappingStart _ _ => depthFrom (level + 1) es
    | .sequenceEnd | .mappingEnd => max level (depthFrom (level - 1) es)
    | _ => depthFrom level es

/-- How many collections of a text are open at once. -/
def depth (text : List Char) : ℕ :=
  let tokens := Token.ofText text
  depthFrom 0 (Event.ofTokens tokens.1 tokens.2).1

section Depth

variable {level : ℕ} {e : Event} {es : List Event}

theorem le_depthFrom (level : ℕ) (es : List Event) : level ≤ depthFrom level es := by
  fun_induction depthFrom level es <;> omega

theorem depthFrom_mono {level level' : ℕ} (h : level ≤ level') (es : List Event) :
    depthFrom level es ≤ depthFrom level' es := by
  induction es generalizing level level' with
  | nil => exact h
  | cons e es ih =>
    unfold depthFrom
    split
    · exact ih (Nat.add_le_add_right h 1)
    · exact ih (Nat.add_le_add_right h 1)
    · have hend := ih (Nat.sub_le_sub_right h 1)
      omega
    · have hend := ih (Nat.sub_le_sub_right h 1)
      omega
    · exact ih h

/-- More collections are open at once the more events there are. -/
theorem depthFrom_drop (n : ℕ) (es : List Event) : depthFrom 0 (es.drop n) ≤ depthFrom 0 es := by
  induction n generalizing es with
  | zero => exact Nat.le_refl _
  | succ n ih =>
    cases es with
    | nil => exact Nat.le_refl _
    | cons e es =>
      refine Nat.le_trans (ih es) ?_
      rw [depthFrom]
      split
      · exact depthFrom_mono (Nat.zero_le 1) es
      · exact depthFrom_mono (Nat.zero_le 1) es
      · exact Nat.le_max_right _ _
      · exact Nat.le_max_right _ _
      · exact Nat.le_refl _

theorem depthFrom_reference {anchor : String} (h : e.kind = .reference anchor) :
    depthFrom level (e :: es) = depthFrom level es := by
  cases e
  cases h
  rfl

theorem depthFrom_scalar {anchor tag : Option String} {implicit : Bool} {text : String}
    (h : e.kind = .scalar anchor tag implicit text) :
    depthFrom level (e :: es) = depthFrom level es := by
  cases e
  cases h
  rfl

theorem depthFrom_start (h : (∃ anchor tag, e.kind = .sequenceStart anchor tag) ∨
    ∃ anchor tag, e.kind = .mappingStart anchor tag) :
    depthFrom level (e :: es) = depthFrom (level + 1) es := by
  cases e
  rcases h with ⟨_, _, h⟩ | ⟨_, _, h⟩ <;> cases h <;> rfl

theorem depthFrom_end (h : e.kind = .sequenceEnd ∨ e.kind = .mappingEnd) :
    depthFrom level es ≤ depthFrom (level + 1) (e :: es) := by
  cases e
  rcases h with h | h <;> cases h <;> exact Nat.le_max_right _ _

end Depth

/-- An error is not that of a scalar, or it is the one that was there before, or the collections are
nested too deep. -/
def StemsOr (failure : Option Error) (deep : Prop) (e : Error) : Prop :=
  ∀ f, e = .scalar f →
    failure = some (.scalar f) ∨ f = @ScalarFault.endlessText .function ∧ deep

theorem StemsOr.imp {deep deep' : Prop} {e : Error} (h : StemsOr failure deep e)
    (hdeep : deep → deep') : StemsOr failure deep' e :=
  fun f hf => (h f hf).imp_right (And.imp_right hdeep)

theorem stemsOr_getD {deep : Prop} {problem : String} {mark : Mark} :
    StemsOr failure deep (failure.getD (.plain problem mark)) := by
  intro f hf
  cases failure with
  | none => cases hf
  | some e => exact .inl (congrArg some hf)

namespace NodeState

variable {s s' : NodeState} {room closed : ℕ}

/-- The events that are left at `s'` are some of those at `s`, behind the ends of so many of the
collections that are open there. -/
def Leaves (closed : ℕ) (s s' : NodeState) : Prop :=
  s'.failure = s.failure ∧ ∀ level, depthFrom level s'.events ≤ depthFrom (level + closed) s.events

/-- The reading of nodes passes on the error behind the events, and ends so many collections. It ends
with another error of a scalar only where more collections are open at once than there is room
for. -/
def Passes (room closed : ℕ) (s : NodeState) (x : Except Error (α × NodeState)) : Prop :=
  x.Ensures (fun r => Leaves closed s r.2) <| StemsOr s.failure <|
    ∀ level, 2 * (level + closed) + room < 2 * depthFrom (level + closed) s.events

theorem Leaves.refl (s : NodeState) : Leaves 0 s s :=
  ⟨rfl, fun _ => Nat.le_refl _⟩

theorem Leaves.trans {s'' : NodeState} (h : Leaves closed s s') (h' : Leaves 0 s' s'') :
    Leaves closed s s'' :=
  ⟨h'.1.trans h.1, fun level => Nat.le_trans (h'.2 level) (h.2 level)⟩

theorem drop_events {e : Event} {es : List Event} (hevents : s.events = e :: es) :
    s.drop.events = es := by
  rw [drop, hevents]
  rfl

/-- One more collection is open behind the start of one. -/
theorem depthFrom_drop_start {e : Event} {es : List Event} (hevents : s.events = e :: es)
    (h : (∃ anchor tag, e.kind = .sequenceStart anchor tag) ∨
      ∃ anchor tag, e.kind = .mappingStart anchor tag) (level : ℕ) :
    depthFrom level s.events = depthFrom (level + 1) s.drop.events := by
  rw [drop_events hevents, hevents]
  exact depthFrom_start h

theorem leaves_drop {e : Event} {es : List Event} (hevents : s.events = e :: es)
    (h : ∀ level, depthFrom level es ≤ depthFrom (level + closed) (e :: es)) :
    Leaves closed s s.drop := by
  refine ⟨rfl, fun level => ?_⟩
  rw [drop_events hevents, hevents]
  exact h level

theorem Passes.of_leaves {x : Except Error (α × NodeState)} (h : Leaves 0 s s')
    (hx : Passes room closed s' x) : Passes room closed s x := by
  refine Ensures.imp hx (fun r hr => ⟨hr.1.trans h.1, fun level => ?_⟩) fun e he => ?_
  · exact Nat.le_trans (hr.2 level) (h.2 (level + closed))
  · rw [h.1] at he
    refine he.imp fun hdeep level => ?_
    exact Nat.lt_of_lt_of_le (hdeep level) (Nat.mul_le_mul_left 2 (h.2 (level + closed)))

/-- What follows a reader starts with what that leaves. -/
theorem Passes.bind {x : Except Error (α × NodeState)}
    {f : α × NodeState → Except Error (β × NodeState)} (hx : Passes room 0 s x)
    (hf : ∀ a s', Passes room closed s' (f (a, s'))) : Passes room closed s (x >>= f) := by
  cases x with
  | ok r => exact .of_leaves hx (hf r.1 r.2)
  | error e => exact StemsOr.imp hx fun hdeep level => hdeep (level + closed)

/-- Making something of what was read takes no events. -/
theorem Passes.map {x : Except Error (α × NodeState)} {f : α × NodeState → β × NodeState}
    (hx : Passes room closed s x) (hf : ∀ r, Leaves 0 r.2 (f r).2) :
    Passes room closed s (x >>= fun r => pure (f r)) := by
  cases x with
  | ok r => exact Leaves.trans hx (hf r)
  | error e => exact hx

theorem passes_error {e : Error} (he : ∀ f, e ≠ .scalar f) :
    Passes room closed s (.error e : Except Error (α × NodeState)) :=
  fun f hf => (he f hf).elim

/-- A look at the next event. -/
theorem peek_ensures {deep : Prop} :
    s.peek.Ensures (fun e => ∃ es, s.events = e :: es) (StemsOr s.failure deep) := by
  unfold peek
  split
  · exact ⟨_, ‹_›⟩
  · exact stemsOr_getD

theorem checkFresh_bind {anchor : Option String} {mark : Mark}
    {f : Unit → Except Error (α × NodeState)} (hf : Passes room closed s (f ())) :
    Passes room closed s (s'.checkFresh anchor mark >>= f) := by
  unfold checkFresh
  split
  · exact hf
  · split
    · exact hf
    · exact passes_error nofun

section Open

variable (hopen : ∀ level, depthFrom level s.events = depthFrom (level + 1) s'.events)
include hopen

/-- Where a collection opens without room for the calls that it takes. -/
theorem passes_endless (hroom : room < 2) :
    Passes room 0 s
      (.error (.scalar (@ScalarFault.endlessText .function)) : Except Error (α × NodeState)) := by
  rintro f ⟨⟩
  refine .inr ⟨rfl, fun level => ?_⟩
  have hle := le_depthFrom (level + 1) s'.events
  rw [← hopen] at hle
  change 2 * level + room < 2 * depthFrom level s.events
  omega

/-- The content of a collection is read with the room that its calls leave. -/
theorem passes_open (hroom : ¬ room < 2) (hfailure : s'.failure = s.failure)
    {x : Except Error (α × NodeState)} (hx : Passes (room - 2) 1 s' x) : Passes room 0 s x := by
  refine Ensures.imp hx (fun r hr => ⟨hr.1.trans hfailure, fun level => ?_⟩) fun e he => ?_
  · exact Nat.le_trans (hr.2 level) (Nat.le_of_eq (hopen level).symm)
  · rw [hfailure] at he
    refine he.imp fun hdeep level => ?_
    have hlt := hdeep level
    rw [← hopen] at hlt
    change 2 * level + room < 2 * depthFrom level s.events
    omega

end Open

/-- Reading a node ends the collections that it starts, and reading items and entries one more. -/
theorem node_passes (budget : ℕ) :
    (∀ room s, Passes room 0 s (node budget room s)) ∧
      (∀ room s, Passes room 1 s (nodes budget room s)) ∧
        ∀ room s, Passes room 1 s (entries budget room s) := by
  -- the three readers call each other with a smaller budget
  induction budget with
  | zero => exact ⟨fun _ _ => stemsOr_getD, fun _ _ => stemsOr_getD, fun _ _ => stemsOr_getD⟩
  | succ budget ih =>
    obtain ⟨hnode, hnodes, hentries⟩ := ih
    refine ⟨fun room s => ?_, fun room s => ?_, fun room s => ?_⟩
    · unfold node
      refine peek_ensures.bind fun e ⟨es, hevents⟩ => ?_
      split
      · split
        · exact leaves_drop hevents fun _ => Nat.le_of_eq (depthFrom_reference ‹_›).symm
        · exact passes_error nofun
      · refine checkFresh_bind ?_
        exact leaves_drop hevents fun _ => Nat.le_of_eq (depthFrom_scalar ‹_›).symm
      · rename_i anchor tag hkind
        have hopen := depthFrom_drop_start hevents (.inl ⟨anchor, tag, hkind⟩)
        refine checkFresh_bind ?_
        dsimp only
        split
        · exact passes_endless hopen ‹_›
        · refine .map (passes_open ?_ ‹_› ?_ (hnodes (room - 2) _)) fun r => .refl r.2
          · exact hopen
          · rfl
      · rename_i anchor tag hkind
        have hopen := depthFrom_drop_start hevents (.inr ⟨anchor, tag, hkind⟩)
        refine checkFresh_bind ?_
        dsimp only
        split
        · exact passes_endless hopen ‹_›
        · refine .map (passes_open ?_ ‹_› ?_ (hentries (room - 2) _)) fun r => .refl r.2
          · exact hopen
          · rfl
      · exact passes_error nofun
    · unfold nodes
      refine peek_ensures.bind fun e ⟨es, hevents⟩ => ?_
      split
      · exact leaves_drop hevents fun _ => depthFrom_end (.inl ‹_›)
      · refine (hnode room s).bind fun id s => ?_
        exact .map (hnodes room s) fun r => .refl r.2
    · unfold entries
      refine peek_ensures.bind fun e ⟨es, hevents⟩ => ?_
      split
      · exact leaves_drop hevents fun _ => depthFrom_end (.inr ‹_›)
      · refine (hnode room s).bind fun k s => (hnode room s).bind fun v s => ?_
        exact .map (hentries room s) fun r => .refl r.2

end NodeState

/-- If an error of a scalar ends the nodes, it ended the events, or more collections are open at once
than there is room for. -/
theorem eq_of_ofEvents? {events : List Event} {f : ScalarFault}
    (h : Graph.ofEvents? events failure = .error (.scalar f)) :
    failure = some (.scalar f) ∨
      f = @ScalarFault.endlessText .function ∧ callRoom < 2 * depthFrom 0 events := by
  have hends : (Graph.ofEvents? events failure).Ensures (fun _ => True)
      (StemsOr failure (callRoom < 2 * depthFrom 0 events)) := by
    unfold Graph.ofEvents?
    refine NodeState.peek_ensures.bind fun _ _ => NodeState.peek_ensures.bind fun e _ => ?_
    split
    · exact True.intro
    · refine Ensures.bind (((NodeState.node_passes _).1 _ _).imp (fun r hr => hr.1) fun e he => ?_)
        fun r hr => ?_
      · refine he.imp fun hdeep => ?_
        have hlt := hdeep 0
        have hle : depthFrom 0 ((events.drop 1).drop 1) ≤ depthFrom 0 events := by
          rw [List.drop_drop]
          exact depthFrom_drop 2 events
        change 2 * 0 + callRoom < 2 * depthFrom 0 ((events.drop 1).drop 1) at hlt
        omega
      · dsimp only
        change r.2.failure = failure at hr
        have hpeek : ∀ s : NodeState, s.failure = failure →
            s.peek.Ensures (fun _ => True) (StemsOr failure (callRoom < 2 * depthFrom 0 events)) :=
          fun s hs => NodeState.peek_ensures.imp (fun _ _ => True.intro) fun e he => hs ▸ he
        refine (hpeek r.2 hr).bind fun _ _ => (hpeek r.2.drop hr).bind fun e _ => ?_
        split
        · exact True.intro
        · exact nofun
  exact hends.of_error h f rfl

/-- The nodes of a text with the number of its root, if it has a document. -/
def compose (text : List Char) : Except Error (Option (Graph × NodeId)) :=
  let tokens := Token.ofText text
  let events := Event.ofTokens tokens.1 tokens.2
  Graph.ofEvents? events.1 events.2

/-- If an error of a scalar ends the nodes of a text, it ended its tokens, or more collections of the
text are open at once than there is room for. -/
theorem ofText_of_compose {text : List Char} {f : ScalarFault}
    (h : compose text = .error (.scalar f)) :
    (Token.ofText text).2 = some (.scalar f) ∨
      f = @ScalarFault.endlessText .function ∧ callRoom < 2 * depth text := by
  unfold compose at h
  exact (eq_of_ofEvents? h).imp_left eq_of_ofTokens

end AgentPackage.Yaml
