import AgentPackage.Yaml.Reader
import AgentPackage.Proofs.Yaml.Composing
import AgentPackage.Proofs.Yaml.Scanning
import Mathlib.Logic.Relation

/-!
# Scalars of a YAML text that denote no value

Building the values of nodes ends at a scalar only if the nodes held one that denotes no value from
the start: merging changes mappings, and makes strings of keys. It ends for want of calls only if
the nodes had as many mappings one of which merges the next.

## Main definitions

* `Yaml.IsScalarTag`: the tags of what is declared to be a scalar;
* `Yaml.Graph.MergeChain`: mappings one of which merges the next;
* `Yaml.Graph.HoldsFault`: why a scalar of some nodes cannot be built;
* `Yaml.HoldsFault`: why the reading of a text breaks off.

## Main results

* `Yaml.Graph.merge_refines`: merging brings in no scalar that cannot be built;
* `Yaml.holdsFault_of_read`: the reading of a text breaks off for such a reason only.
-/

namespace AgentPackage.Yaml

open Except

variable {f : ScalarFault}

/-- A tag declares what has it to be a scalar, at once or when it is a key of what is merged. -/
def IsScalarTag (tag : String) : Prop :=
  (ScalarValue.ScalarType.ofTag? tag).isSome = true ∨ tag = standardTag "value"

namespace Graph

variable {g g' : Graph} {id : NodeId}

/-- An entry has a node merged: its key is a merge key, and its value is the node or a sequence that
holds it. -/
def Names (g : Graph) (e : NodeId × NodeId) (j : NodeId) : Prop :=
  g.hasKeyTag "merge" e = true ∧
    (e.2 = j ∨ ∃ items, (g.node e.2).content = .sequence items ∧ j ∈ items)

/-- A node merges another one. -/
def Merges (g : Graph) (i j : NodeId) : Prop :=
  ∃ e ∈ g.entries i, g.Names e j

/-- A node merges another one, that one a next one and so on, as often as the number says. -/
inductive MergeChain (g : Graph) : ℕ → NodeId → Prop
  | zero (i : NodeId) : MergeChain g 0 i
  | succ {n : ℕ} {i j : NodeId} : g.Merges i j → MergeChain g n j → MergeChain g (n + 1) i

/-- Why a scalar cannot be built. -/
inductive HoldsFault (g : Graph) (f : ScalarFault) : Prop
  /-- The text of a scalar denotes no value of the type that its tag names. -/
  | text {id : NodeId} {text : String} {type : ScalarValue.ScalarType} :
      (g.node id).content = .scalar text → ScalarValue.ScalarType.ofTag? (g.node id).tag = some type →
        ScalarValue.ofText type text (g.node id).start = .error (.scalar f) → HoldsFault g f
  /-- A mapping that is declared to be a scalar has a key `=`, or merges other mappings. -/
  | mapping {id : NodeId} {entries : List (NodeId × NodeId)} {e : NodeId × NodeId} :
      (g.node id).content = .mapping entries → IsScalarTag (g.node id).tag → e ∈ entries →
        (g.hasKeyTag "value" e = true ∨ g.hasKeyTag "merge" e = true) → HoldsFault g f
  /-- More mappings are to be merged one before the other than there is room for calls. -/
  | merges {id : NodeId} :
      g.MergeChain (callRoom + 1) id → f = @ScalarFault.endlessText .function → HoldsFault g f

/-- The scalars of `g'` can be built if those of `g` can, nothing that is no scalar becomes one, and
nothing is merged into another mapping than before. -/
structure Refines (f : ScalarFault) (g g' : Graph) : Prop where
  /-- What stands in the way of a scalar did so before. -/
  fault : g'.HoldsFault f → g.HoldsFault f
  /-- What is declared to be a scalar was so before. -/
  tag : ∀ id, IsScalarTag (g'.node id).tag → IsScalarTag (g.node id).tag
  /-- What an entry has merged it had merged before. -/
  names : ∀ e j, g'.Names e j → g.Names e j
  /-- What a node merges it merged before, if only by way of other nodes. -/
  merges : ∀ i j, g'.Merges i j → Relation.TransGen g.Merges i j

namespace MergeChain

variable {n m : ℕ} {i j : NodeId}

theorem mono (h : g.MergeChain n i) (hm : m ≤ n) : g.MergeChain m i := by
  induction h generalizing m with
  | zero i => obtain rfl := Nat.le_zero.mp hm; exact .zero i
  | succ hij _ ih =>
    cases m with
    | zero => exact .zero _
    | succ m => exact .succ hij (ih (Nat.le_of_succ_le_succ hm))

/-- Other nodes on the way make a chain longer. -/
theorem of_transGen (hij : Relation.TransGen g.Merges i j) (h : g.MergeChain n j) :
    g.MergeChain (n + 1) i := by
  induction hij using Relation.TransGen.head_induction_on with
  | single hij => exact .succ hij h
  | head hij _ ih => exact (MergeChain.succ hij ih).mono (Nat.le_succ _)

/-- There was as long a chain before. -/
theorem of_merges (hmerges : ∀ i j, g'.Merges i j → Relation.TransGen g.Merges i j)
    (h : g'.MergeChain n i) : g.MergeChain n i := by
  induction h with
  | zero i => exact .zero i
  | succ hij _ ih => exact .of_transGen (hmerges _ _ hij) ih

end MergeChain

namespace Refines

theorem refl (g : Graph) : Refines f g g :=
  ⟨fun h => h, fun _ h => h, fun _ _ h => h, fun _ _ h => .single h⟩

theorem trans {g'' : Graph} (h : Refines f g g') (h' : Refines f g' g'') : Refines f g g'' :=
  ⟨fun hf => h.fault (h'.fault hf), fun id ht => h.tag id (h'.tag id ht),
    fun e j he => h.names e j (h'.names e j he),
    fun i j hij => Relation.TransGen.closed h.merges i j (h'.merges i j hij)⟩

theorem mergeChain (h : Refines f g g') {n : ℕ} (hchain : g'.MergeChain n id) : g.MergeChain n id :=
  hchain.of_merges h.merges

end Refines

/-- Changing a node changes no other one. -/
theorem node_modify (g : Graph) (id : NodeId) (change : Node → Node) (i : NodeId) :
    (⟨g.nodes.modify id change⟩ : Graph).node i = g.node i ∨
      i = id ∧ (⟨g.nodes.modify id change⟩ : Graph).node i = change (g.node i) := by
  unfold node
  rw [Array.getD_eq_getD_getElem?, Array.getD_eq_getD_getElem?, Array.getElem?_modify]
  split
  · rename_i h
    cases g.nodes[i]? with
    | none => exact .inl rfl
    | some n => exact .inr ⟨h.symm, rfl⟩
  · exact .inl rfl

theorem node_setContent (g : Graph) (id : NodeId) (content : Content) (i : NodeId) :
    (g.setContent id content).node i = g.node i ∨
      i = id ∧ (g.setContent id content).node i = { g.node i with content } :=
  node_modify g id _ i

theorem node_setTag (g : Graph) (id : NodeId) (tag : String) (i : NodeId) :
    (g.setTag id tag).node i = g.node i ∨
      i = id ∧ (g.setTag id tag).node i = { g.node i with tag } :=
  node_modify g id _ i

/-- Only the content of a node changes with it. -/
theorem tag_setContent (g : Graph) (id : NodeId) (content : Content) (i : NodeId) :
    ((g.setContent id content).node i).tag = (g.node i).tag := by
  rcases node_setContent g id content i with h | ⟨-, h⟩ <;> rw [h]

theorem hasKeyTag_setContent (g : Graph) (id : NodeId) (content : Content) (name : String)
    (e : NodeId × NodeId) : (g.setContent id content).hasKeyTag name e = g.hasKeyTag name e := by
  unfold hasKeyTag
  rw [tag_setContent]

/-- A mapping that gets other entries becomes no sequence of what is merged. -/
theorem names_of_setContent {entries : List (NodeId × NodeId)} {e : NodeId × NodeId} {j : NodeId}
    (h : (g.setContent id (.mapping entries)).Names e j) : g.Names e j := by
  obtain ⟨htag, hvalue⟩ := h
  rw [hasKeyTag_setContent] at htag
  refine ⟨htag, hvalue.imp_right ?_⟩
  rintro ⟨items, hcontent, hj⟩
  rcases node_setContent g id (.mapping entries) e.2 with hnode | ⟨-, hnode⟩
  · rw [hnode] at hcontent
    exact ⟨items, hcontent, hj⟩
  · rw [hnode] at hcontent
    cases hcontent

/-- Only the mapping that gets other entries merges other nodes than before. -/
theorem merges_of_setContent {entries : List (NodeId × NodeId)} {i j : NodeId}
    (h : (g.setContent id (.mapping entries)).Merges i j) :
    g.Merges i j ∨ i = id ∧ ∃ e ∈ entries, g.Names e j := by
  obtain ⟨e, he, hnames⟩ := h
  unfold Graph.entries at he
  rcases node_setContent g id (.mapping entries) i with hnode | ⟨rfl, hnode⟩
  · rw [hnode] at he
    exact .inl ⟨e, he, names_of_setContent hnames⟩
  · rw [hnode] at he
    exact .inr ⟨rfl, e, he, names_of_setContent hnames⟩

/-- A mapping gets other entries, if it is not declared to be a scalar. -/
theorem Refines.setContent (h : Refines f g g') {entries : List (NodeId × NodeId)}
    (hid : IsScalarTag (g.node id).tag → g.HoldsFault f)
    (hentries : ∀ e ∈ entries, ∀ j, g'.Names e j → Relation.TransGen g.Merges id j) :
    Refines f g (g'.setContent id (.mapping entries)) := by
  have hmerges : ∀ i j, (g'.setContent id (.mapping entries)).Merges i j →
      Relation.TransGen g.Merges i j := by
    intro i j hij
    rcases merges_of_setContent hij with hij | ⟨rfl, e, he, hnames⟩
    · exact h.merges i j hij
    · exact hentries e he j hnames
  refine ⟨fun hfault => ?_, fun i hi => h.tag i (by rwa [tag_setContent] at hi),
    fun e j he => h.names e j (names_of_setContent he), hmerges⟩
  cases hfault with
  | merges hchain hf => exact .merges (hchain.of_merges hmerges) hf
  | text hcontent htype htext =>
    rename_i i _ _
    rcases node_setContent g' id (.mapping entries) i with hnode | ⟨rfl, hnode⟩
    · rw [hnode] at hcontent htype htext
      exact h.fault (.text hcontent htype htext)
    · rw [hnode] at hcontent
      cases hcontent
  | mapping hcontent htag he hkey =>
    rename_i i _ _
    -- tags stay, so the mapping was declared to be a scalar and held such keys before
    rw [hasKeyTag_setContent, hasKeyTag_setContent] at hkey
    rw [tag_setContent] at htag
    rcases node_setContent g' id (.mapping entries) i with hnode | ⟨rfl, hnode⟩
    · rw [hnode] at hcontent
      exact h.fault (.mapping hcontent htag he hkey)
    · exact hid (h.tag _ htag)

/-- A key `=` becomes a string. -/
theorem Refines.setTag (h : (g.node id).tag = standardTag "value") :
    Refines f g (g.setTag id (standardTag "str")) := by
  have htag : ∀ i, IsScalarTag ((g.setTag id (standardTag "str")).node i).tag →
      IsScalarTag (g.node i).tag := by
    intro i hi
    rcases node_setTag g id (standardTag "str") i with hnode | ⟨rfl, hnode⟩
    · rwa [hnode] at hi
    · exact .inr h
  -- a key that became a string is no key `=` and no merge key
  have hkey : ∀ name e, standardTag "str" ≠ standardTag name →
      (g.setTag id (standardTag "str")).hasKeyTag name e = true → g.hasKeyTag name e = true := by
    intro name e hname he
    unfold hasKeyTag at he ⊢
    rcases node_setTag g id (standardTag "str") e.1 with hnode | ⟨-, hnode⟩
    · rwa [hnode] at he
    · rw [hnode, beq_iff_eq] at he
      exact absurd he hname
  -- what the nodes hold stays
  have hcontent : ∀ i, ((g.setTag id (standardTag "str")).node i).content = (g.node i).content := by
    intro i
    rcases node_setTag g id (standardTag "str") i with hnode | ⟨-, hnode⟩ <;> rw [hnode]
  have hnames : ∀ e j, (g.setTag id (standardTag "str")).Names e j → g.Names e j := by
    rintro e j ⟨hmerge, hvalue⟩
    rw [hcontent] at hvalue
    exact ⟨hkey _ _ (by decide) hmerge, hvalue⟩
  have hmerges : ∀ i j, (g.setTag id (standardTag "str")).Merges i j →
      Relation.TransGen g.Merges i j := by
    rintro i j ⟨e, he, hej⟩
    unfold Graph.entries Node.entries? at he
    rw [hcontent] at he
    exact .single ⟨e, he, hnames e j hej⟩
  refine ⟨fun hfault => ?_, htag, hnames, hmerges⟩
  cases hfault with
  | merges hchain hf => exact .merges (hchain.of_merges hmerges) hf
  | text hcontent htype htext =>
    rename_i i _ _
    rcases node_setTag g id (standardTag "str") i with hnode | ⟨rfl, hnode⟩
    · rw [hnode] at hcontent htype htext
      exact .text hcontent htype htext
    · rw [hnode, show ScalarValue.ScalarType.ofTag? (standardTag "str") = some .str by decide]
        at htype
      -- every text denotes a string
      cases htype
      cases htext
  | mapping hcontent hscalar he hkeys =>
    rename_i i _ _
    refine .mapping ?_ (htag i hscalar) he ?_
    · rcases node_setTag g id (standardTag "str") i with hnode | ⟨-, hnode⟩ <;>
        rwa [hnode] at hcontent
    · exact hkeys.imp (hkey _ _ (by decide)) (hkey _ _ (by decide))

/-- The keys `=` of a mapping become strings. -/
theorem refines_nameDefaultKeys (g : Graph) (id : NodeId) : Refines f g (g.nameDefaultKeys id) := by
  have key : ∀ (es : List (NodeId × NodeId)) (g : Graph), Refines f g (es.foldl (fun g e =>
      if g.hasKeyTag "value" e then g.setTag e.1 (standardTag "str") else g) g) := by
    intro es
    induction es with
    | nil => exact fun g => .refl g
    | cons e es ih =>
      intro g
      refine Refines.trans ?_ (ih _)
      dsimp only
      split
      · rename_i h
        exact .setTag (beq_iff_eq.mp h)
      · exact .refl g
  exact key _ g

/-- A mapping with a merge key is not declared to be a scalar, or cannot be built, and merges what the
key names. -/
theorem refines_takeMerge? {source : NodeId} (h : g.takeMerge? id = some (source, g')) :
    Refines f g g' ∧ (IsScalarTag (g.node id).tag → g.HoldsFault f) ∧
      ∀ j, (source = j ∨ ∃ items, (g'.node source).content = .sequence items ∧ j ∈ items) →
        g.Merges id j := by
  obtain ⟨e, he, h⟩ := Option.map_eq_some_iff.mp h
  cases h
  have hmem := List.mem_of_find?_eq_some he
  have hfault : IsScalarTag (g.node id).tag → g.HoldsFault f := by
    intro htag
    unfold entries Node.entries? at hmem
    cases hcontent : (g.node id).content with
    | mapping es =>
      rw [hcontent] at hmem
      exact .mapping hcontent htag hmem (.inr (List.find?_some he))
    | _ => rw [hcontent] at hmem; cases hmem
  refine ⟨(Refines.refl g).setContent hfault fun d hd j hnames => ?_, hfault, fun j hj => ?_⟩
  · exact .single ⟨d, List.mem_of_mem_eraseP hd, hnames⟩
  · refine ⟨e, hmem, names_of_setContent (And.intro ?_ hj)⟩
    rw [hasKeyTag_setContent]
    exact List.find?_some he

/-- An error that ends merging is not that of a scalar, or there was no room for more calls. -/
def EndsAtChain (f : ScalarFault) (g : Graph) (room : ℕ) (id : NodeId) (e : Error) : Prop :=
  e = .scalar f → f = @ScalarFault.endlessText .function ∧ g.MergeChain (room + 1) id

theorem EndsAtChain.of_refines {room : ℕ} {e : Error} (h : EndsAtChain f g' room id e)
    (hg : Refines f g g') : EndsAtChain f g room id e :=
  fun he => (h he).imp_right hg.mergeChain

/-- Merging brings in no scalar that cannot be built, and does not end at one, but may take too many
calls. -/
theorem merge_refines (budget room : ℕ) (g : Graph) (id : NodeId) :
    (merge budget room g id).Ensures (Refines f g) (EndsAtChain f g room id) := by
  -- what is merged may merge in turn, with a smaller budget
  induction budget generalizing room g id with
  | zero => exact .refl g
  | succ budget ih =>
    unfold merge
    dsimp only
    split
    · exact refines_nameDefaultKeys g id
    · rename_i source g₁ htake
      obtain ⟨h₁, hfault, hsource⟩ := refines_takeMerge? (f := f) htake
      -- a mapping that is merged is made ready for it, which takes one call more
      have hready : ∀ (g₂ : Graph) (j : NodeId), Refines f g g₂ → g.Merges id j →
          Ensures (Refines f g₂) (EndsAtChain f g room id)
            (if room == 0 then .error (.scalar (@ScalarFault.endlessText .function))
              else merge budget (room - 1) g₂ j) := by
        intro g₂ j h₂ hj
        refine .ite_of (fun hroom he => ?_) fun hroom => ?_
        · cases he
          exact ⟨rfl, .succ hj (beq_iff_eq.mp hroom ▸ .zero j)⟩
        · rw [beq_iff_eq] at hroom
          refine (ih (room - 1) g₂ j).imp (fun _ h => h) fun e hend he => ?_
          obtain ⟨hf, hchain⟩ := hend he
          rw [show room - 1 + 1 = room by omega] at hchain
          exact ⟨hf, .succ hj (h₂.mergeChain hchain)⟩
      -- the entries that are merged, with the nodes by then: what they merge is merged here too
      let Merged (r : List (NodeId × NodeId) × Graph) : Prop :=
        Refines f g r.2 ∧ ∀ e ∈ r.1, ∀ j, r.2.Names e j → Relation.TransGen g.Merges id j
      have hentries : ∀ (g₂ : Graph) (j : NodeId), Refines f g g₂ → g.Merges id j →
          ∀ e ∈ g₂.entries j, ∀ k, g₂.Names e k → Relation.TransGen g.Merges id k :=
        fun g₂ j h₂ hj e he k hnames => .head hj (h₂.merges j k ⟨e, he, hnames⟩)
      -- in the end come the entries of the mapping itself
      have hown : ∀ r, Merged r → Ensures (Refines f g) (EndsAtChain f g room id) (do
          let g ← merge budget room r.2 id
          return g.setContent id (.mapping (r.1 ++ g.entries id))) := by
        rintro r ⟨hr, hmerged⟩
        refine Ensures.bind ((ih room r.2 id).imp (fun _ h => h) fun e he => he.of_refines hr)
          fun g₂ h₂ => ?_
        refine (hr.trans h₂).setContent hfault fun e he j hnames => ?_
        rcases List.mem_append.mp he with he | he
        · exact hmerged e he j (h₂.names e j hnames)
        · exact (hr.trans h₂).merges id j ⟨e, he, hnames⟩
      split
      · have hj := hsource source (.inl rfl)
        refine (hready g₁ source h₁ hj).bind fun g₂ h₂ => ?_
        exact hown (_, g₂) ⟨h₁.trans h₂, hentries g₂ source (h₁.trans h₂) hj⟩
      · rename_i items hitems
        refine Ensures.bind (P := Merged) ?_ hown
        refine Ensures.foldlM ⟨h₁, fun e he => (nomatch he)⟩ fun r hr item hitem => ?_
        have hj := hsource item (.inr ⟨items, hitems, hitem⟩)
        split
        · refine (hready r.2 item hr.1 hj).bind fun g₂ h₂ => ?_
          refine ⟨hr.1.trans h₂, fun e he j hnames => ?_⟩
          rcases List.mem_append.mp he with he | he
          · exact hentries g₂ item (hr.1.trans h₂) hj e he j hnames
          · exact hr.2 e he j (h₂.names e j hnames)
        · exact fun h => (nomatch h)
      · exact fun h => (nomatch h)

/-- What is declared to be a scalar has a text of its own, if it can be built. -/
theorem scalarText_ensures (h : ¬ g.HoldsFault f) (htag : IsScalarTag (g.node id).tag)
    {budget : ℕ} (hbudget : 0 < budget) :
    (g.scalarText budget id).Ensures (fun text => (g.node id).content = .scalar text)
      (· ≠ .scalar f) := by
  obtain ⟨budget, rfl⟩ := Nat.exists_eq_add_of_lt hbudget
  unfold scalarText
  dsimp only
  split
  · exact ‹_›
  · rename_i entries hcontent
    split
    · rename_i k v hfind
      exact absurd (.mapping hcontent htag (List.mem_of_find?_eq_some hfind)
        (.inl (List.find?_some hfind))) h
    · exact fun h => (nomatch h)
  · exact fun h => (nomatch h)

/-- What a node is built as at first. -/
theorem begun_ensures (h : ¬ g.HoldsFault f) (id : NodeId) :
    (g.begun id).Ensures (fun _ => True) (· ≠ .scalar f) := by
  unfold begun
  dsimp only
  split
  · exact True.intro
  · split
    · rename_i type htype
      -- the text is that of the node itself, since no key `=` stands for it
      have htag : IsScalarTag (g.node id).tag := .inl (by rw [htype]; rfl)
      refine (scalarText_ensures h htag (by decide)).bind fun text hcontent => ?_
      have hscalar : (g.node id).isScalar = true := by
        unfold Node.isScalar
        rw [hcontent]
      rw [hscalar, Bool.not_true, Bool.and_false]
      cases hvalue : ScalarValue.ofText type text (g.node id).start with
      | ok v => exact True.intro
      | error e =>
        intro he
        subst he
        exact h (.text hcontent htype hvalue)
    · exact fun h => (nomatch h)

end Graph

namespace Building

variable {b : Building} {id : NodeId}

/-- Building ends at no scalar that the nodes do not hold, and changes only nodes that can be
built. -/
def Builds (f : ScalarFault) (x : Except Error Building) : Prop :=
  x.Ensures (fun b => ¬ b.graph.HoldsFault f) (· ≠ .scalar f)

theorem visit_builds (h : ¬ b.graph.HoldsFault f) (id : NodeId) : Builds f (b.visit id) := by
  unfold visit
  split
  · exact h
  · refine (Graph.begun_ensures h id).bind fun part _ => ?_
    dsimp only
    split
    · exact h
    · exact h

theorem visitEntries_builds (h : ¬ b.graph.HoldsFault f) {start : Mark}
    {entries : List (NodeId × NodeId)} : Builds f (b.visitEntries start entries) := by
  refine Ensures.foldlM h fun b hb e _ => ?_
  refine Ensures.bind (visit_builds hb e.1) fun b hb => ?_
  exact .ite (fun h => (nomatch h)) (visit_builds hb e.2)

theorem visitRows_ensures (h : ¬ b.graph.HoldsFault f) {context : String} {start : Mark}
    {items : List NodeId} :
    (visitRows context start b items).Ensures (fun r => ¬ r.2.graph.HoldsFault f)
      (· ≠ .scalar f) := by
  induction items generalizing b with
  | nil => exact h
  | cons item items ih =>
    unfold visitRows
    dsimp only
    split
    · exact fun h => (nomatch h)
    · rename_i k v _
      refine Ensures.bind (visit_builds h k) fun b hb => ?_
      refine Ensures.bind (visit_builds hb v) fun b hb => ?_
      exact (ih hb).bind fun r hr => hr
    · exact fun h => (nomatch h)

theorem fillRows_builds (h : ¬ b.graph.HoldsFault f) {context : String} {type : CollectionType} :
    Builds f (fillRows context type b id) := by
  unfold fillRows
  dsimp only
  split
  · exact (visitRows_ensures h).bind fun r hr => hr
  · exact fun h => (nomatch h)

theorem fill_builds (h : ¬ b.graph.HoldsFault f) (id : NodeId) : Builds f (b.fill id) := by
  unfold fill
  dsimp only
  split
  · split
    · refine Ensures.bind (P := fun b : Building => ¬ b.graph.HoldsFault f) ?_ fun b hb => hb
      exact Ensures.foldlM h fun b hb item _ => visit_builds hb item
    · exact fun h => (nomatch h)
  · exact fillRows_builds h
  · exact fillRows_builds h
  · split
    · have hmerge := (Graph.merge_refines (f := f) (b.entryLimit + 1) callRoom b.graph id).imp
        (fun _ hgraph => hgraph) (Q := (· ≠ .scalar f)) fun e hend he => by
          obtain ⟨hf, hchain⟩ := hend he
          exact h (.merges hchain hf)
      refine hmerge.bind fun graph hgraph => ?_
      -- the entries are those after merging
      have hfault : ¬ graph.HoldsFault f := fun hf => h (hgraph.fault hf)
      exact Ensures.bind (visitEntries_builds (b := { b with graph }) hfault) fun b hb => hb
    · exact fun h => (nomatch h)
  · exact h

theorem fillLevels_builds {budget : ℕ} (h : ¬ b.graph.HoldsFault f) :
    Builds f (fillLevels budget b) := by
  induction budget generalizing b with
  | zero => exact h
  | succ budget ih =>
    unfold fillLevels
    split
    · exact h
    · refine Ensures.bind (P := fun b : Building => ¬ b.graph.HoldsFault f) ?_ fun b hb => ih hb
      exact Ensures.foldlM h fun b hb id _ => fill_builds hb id

/-- Building a node ends at a scalar only if the nodes held it. -/
theorem holdsFault_of_ofNode {g : Graph} (h : ofNode g id = .error (.scalar f)) :
    g.HoldsFault f := by
  by_contra hg
  have hbuilds : Builds f (ofNode g id) :=
    Ensures.bind (visit_builds hg id) fun b hb => fillLevels_builds hb
  exact hbuilds.of_error h rfl

end Building

/-- Why the reading of a text breaks off. -/
inductive HoldsFault (text : List Char) (f : ScalarFault) : Prop
  /-- The tokens of the text break off. -/
  | token : HoldsUnreadable text f → HoldsFault text f
  /-- More collections of the text are open at once than there is room for, at two calls each. -/
  | deep : f = @ScalarFault.endlessText .function → callRoom < 2 * depth text → HoldsFault text f
  /-- A node of the text cannot be built. -/
  | node {g : Graph} {root : NodeId} : compose text = .ok (some (g, root)) → g.HoldsFault f →
      HoldsFault text f

/-- The value of a text is built from its nodes. -/
theorem read_eq (text : List Char) :
    read text = match unacceptable? 0 text with
      | some (c, position) => .error (.unacceptable c.toNat position)
      | none => do
        match ← compose text with
        | none => return .null
        | some (g, root) =>
          let b ← Building.ofNode g root
          return b.value (g.nodes.size + 1) [] root := by
  unfold read compose
  dsimp only
  cases unacceptable? 0 text with
  | none => rfl
  | some r => rfl

/-- A text ends at a scalar only if the text or its nodes held it, and for want of calls only if it is
nested too deep. -/
theorem holdsFault_of_read {text : List Char} (h : read text = .error (.scalar f)) :
    HoldsFault text f := by
  rw [read_eq] at h
  split at h
  · cases h
  · rcases bind_eq_error.mp h with hcompose | ⟨r, hcompose, h⟩
    · rcases ofText_of_compose hcompose with htoken | ⟨hf, hdeep⟩
      · exact .token (holdsUnreadable_of_ofText htoken)
      · exact .deep hf hdeep
    · split at h
      · cases h
      · rcases bind_eq_error.mp h with hbuild | ⟨b, -, h⟩
        · exact .node hcompose (Building.holdsFault_of_ofNode hbuild)
        · cases h

end AgentPackage.Yaml
