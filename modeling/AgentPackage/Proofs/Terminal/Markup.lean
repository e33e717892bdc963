import AgentPackage.Proofs.Except
import AgentPackage.Terminal.Markup
import Mathlib.Data.List.TakeWhile

/-!
# Faults of markup

What is wrong with a text with markup depends on its tags alone: not on what stands between them,
and not on tags before them that are closed again.

## Main definitions

* `Markup.fault?`: what is wrong with a text with markup;
* `MarkupPart.tags`: the tags of a text;
* `Markup.IsClosed`: tags that are right and leave open what is open before them;
* `Markup.IsStyleName`: a word that opens and closes a style.

## Main results

* `Markup.fault?_eq`: the fault of a text is that of its tags;
* `Markup.IsClosed.append`, `Markup.IsClosed.nest`: how closed tags are put together;
* `Markup.fault?_eq_of_tags`: closed tags in front of a text have no bearing on its fault;
* `Markup.fault?_of_notMem`: a text without brackets has no fault.
-/

namespace AgentPackage.Terminal

namespace MarkupPart

/-- Whether a part is a tag. -/
def isTag : MarkupPart → Bool
  | .text _ => false
  | .tag _ => true

/-- The tags of a text. -/
def tags (cs : List Char) : List MarkupPart :=
  (ofText [] cs).filter isTag

variable {c : Char} {cs plain rest : List Char}

theorem ofText_of_tagAt? {n : ℕ} {content behind : List Char}
    (h : tagAt? cs = some (n, content, behind)) :
    ofText plain cs = flush plain ++ escaped n content ++ ofText [] behind := by
  rw [ofText.eq_def]
  split
  · rename_i h'
    cases h.symm.trans h'
    rfl
  · rename_i h'
    cases h.symm.trans h'

theorem ofText_cons (h : tagAt? (c :: cs) = none) :
    ofText plain (c :: cs) = ofText (c :: plain) cs := by
  rw [ofText.eq_def]
  split
  · rename_i h'
    cases h.symm.trans h'
  · rfl

theorem ofText_nil : ofText plain [] = flush plain := by
  rw [ofText.eq_def]
  rfl

theorem filter_flush : (flush plain).filter isTag = [] := by
  unfold flush
  split <;> rfl

/-- Which characters belong to no part yet has no bearing on the tags. -/
theorem filter_ofText (plain plain' cs : List Char) :
    (ofText plain cs).filter isTag = (ofText plain' cs).filter isTag := by
  fun_induction ofText plain cs generalizing plain' with
  | case1 plain cs n content behind h =>
    rw [ofText_of_tagAt? h]
    simp only [List.filter_append, filter_flush]
  | case2 plain h => rw [ofText_nil, filter_flush, filter_flush]
  | case3 plain c cs h ih =>
    rw [ofText_cons h]
    exact ih (c :: plain')

theorem tags_nil : tags [] = [] := by
  rw [tags, ofText_nil]
  rfl

/-- A character at which no tag starts is passed over. -/
theorem tags_cons (h : tagAt? (c :: cs) = none) : tags (c :: cs) = tags cs := by
  rw [tags, ofText_cons h]
  exact filter_ofText [c] [] cs

/-- No bracket opens among the characters, and no backslash stands there. -/
def IsPlain (cs : List Char) : Prop :=
  ∀ c ∈ cs, c ≠ '[' ∧ c ≠ '\\'

instance (cs : List Char) : Decidable (IsPlain cs) :=
  List.decidableBAll _ _

theorem isPlain_append {cs' : List Char} : IsPlain (cs ++ cs') ↔ IsPlain cs ∧ IsPlain cs' :=
  List.forall_mem_append

/-- Plain characters are passed over. -/
theorem tags_append (h : IsPlain cs) : tags (cs ++ rest) = tags rest := by
  induction cs with
  | nil => rfl
  | cons c cs ih =>
    obtain ⟨⟨hbracket, hbackslash⟩, hcs⟩ := List.forall_mem_cons.mp h
    rw [List.cons_append, tags_cons, ih hcs]
    simp [tagAt?, hbracket, hbackslash]

/-- The characters can stand behind a bracket without being taken for a tag. -/
def IsLabel (cs : List Char) : Prop :=
  (cs.head?.any fun c => !startsTag c) = true ∧ IsPlain cs

instance (cs : List Char) : Decidable (IsLabel cs) :=
  inferInstanceAs (Decidable (_ ∧ _))

/-- A label is passed over together with the bracket and the backslash in front of it. -/
theorem tags_label (h : IsLabel cs) : tags ('\\' :: '[' :: (cs ++ rest)) = tags rest := by
  obtain ⟨hstarts, hplain⟩ := h
  cases cs with
  | nil => cases hstarts
  | cons c cs =>
    have hstarts : startsTag c = false := by simpa using hstarts
    rw [List.cons_append, tags_cons (by simp [tagAt?, hstarts]),
      tags_cons (by simp [tagAt?, hstarts]), ← List.cons_append, tags_append hplain]

/-- Where no bracket opens there is no tag. -/
theorem tags_of_notMem (h : '[' ∉ cs) : tags cs = [] := by
  induction cs with
  | nil => exact tags_nil
  | cons c cs ih =>
    rw [tags_cons, ih (List.not_mem_of_not_mem_cons h)]
    unfold tagAt?
    split
    · rename_i hdrop
      have hmem : '[' ∈ (c :: cs).dropWhile (· == '\\') := by
        rw [hdrop]
        exact List.mem_cons_self
      exact absurd ((List.dropWhile_sublist _).subset hmem) h
    · rfl

theorem tags_of_isPlain (h : IsPlain cs) : tags cs = [] :=
  tags_of_notMem fun hmem => (h _ hmem).1 rfl

/-- The characters can stand in a tag. -/
def IsTagName (name : List Char) : Prop :=
  name.head?.any startsTag = true ∧ ∀ c ∈ name, isInner c = true

instance (name : List Char) : Decidable (IsTagName name) :=
  haveI : Decidable (∀ c ∈ name, isInner c = true) := List.decidableBAll _ _
  inferInstanceAs (Decidable (_ ∧ _))

/-- What stands in brackets is a tag. -/
theorem tags_tag {name : List Char} (h : IsTagName name) :
    tags ('[' :: (name ++ ']' :: rest)) = .tag name :: tags rest := by
  obtain ⟨hstarts, hinner⟩ := h
  cases name with
  | nil => cases hstarts
  | cons c name =>
    obtain ⟨-, hinner⟩ := List.forall_mem_cons.mp hinner
    have hend : isInner ']' = false := rfl
    have htag : tagAt? ('[' :: (c :: name ++ ']' :: rest)) = some (0, c :: name, rest) := by
      have hstarts : startsTag c = true := hstarts
      have hdrop : (name ++ ']' :: rest).dropWhile isInner = ']' :: rest := by
        rw [List.dropWhile_append_of_pos hinner, List.dropWhile_cons_of_neg (by simp [hend])]
      have htake : (name ++ ']' :: rest).takeWhile isInner = name := by
        rw [List.takeWhile_append_of_pos hinner, List.takeWhile_cons_of_neg (by simp [hend]),
          List.append_nil]
      simp [tagAt?, hstarts, hdrop, htake]
    rw [tags, ofText_of_tagAt? htag]
    exact List.filter_cons_of_pos rfl

end MarkupPart

namespace Markup

/-- What is wrong with parts that are read behind others, if anything: with the tags, or with the
styles that they ask for. -/
def State.fault? (s : State) (parts : List MarkupPart) : Option MarkupFault :=
  match parts.foldlM State.step s >>= fun s => checkStyles s.finish with
  | .ok _ => none
  | .error f => some f

/-- What is wrong with a text with markup, if anything. -/
def fault? (s : String) : Option MarkupFault :=
  State.fault? {} (MarkupPart.ofText [] s.toList)

/-- What a tag asks for, wherever it stands. -/
def OpenTag.wish (t : OpenTag) : String × Option String :=
  (t.name, t.value?)

/-- The same tags are open, and the styles asked for so far are as good. -/
structure State.Resembles (s s' : State) : Prop where
  /-- The tags ask for the same. -/
  wishes : s.opened.map OpenTag.wish = s'.opened.map OpenTag.wish
  /-- The styles can be looked up together. -/
  styles : checkStyles s.shown = checkStyles s'.shown

/-- The style of one more stretch is looked up behind the others, as if it stood alone. -/
theorem checkStyles_cover (a : Styled) (start : ℕ) (style : String) :
    checkStyles (a.cover start style) =
      checkStyles a >>= fun _ => checkStyles (({} : Styled).cover 0 style) := by
  simp [checkStyles, Styled.cover]

/-- A style that has a name can be looked up. -/
theorem checkStyles_of_name {style name : String} (h : Style.name style = .ok name) :
    checkStyles (({} : Styled).cover 0 style) = .ok () := by
  have hstyle : Style.ofText style ≠ .error .component := by
    intro hcomponent
    rw [Style.name, hcomponent] at h
    cases h
  simp [checkStyles, Styled.cover]

namespace State

variable {s s' : State}

theorem Resembles.refl (s : State) : s.Resembles s :=
  ⟨rfl, rfl⟩

theorem Resembles.trans {s'' : State} (h : s.Resembles s') (h' : s'.Resembles s'') :
    s.Resembles s'' :=
  ⟨h.wishes.trans h'.wishes, h.styles.trans h'.styles⟩

/-- What stands between tags makes no difference. -/
theorem Resembles.step_text (h : s.Resembles s') (cs : List Char) :
    ∃ r, s.step (.text cs) = .ok r ∧ r.Resembles s' :=
  ⟨_, rfl, h.wishes, h.styles⟩

/-- Covering with the same style keeps styles as good as each other. -/
theorem Resembles.cover (h : s.Resembles s') (start start' : ℕ) (style : String) :
    checkStyles (s.shown.cover start style) = checkStyles (s'.shown.cover start' style) := by
  rw [checkStyles_cover s.shown, checkStyles_cover s'.shown, h.styles]

/-- The last tags of a name ask for the same. -/
theorem Resembles.find? (h : s.Resembles s') (name : String) :
    (s.opened.find? fun t => t.name == name).map OpenTag.wish =
      (s'.opened.find? fun t => t.name == name).map OpenTag.wish := by
  have hfind : ∀ tags : List OpenTag, (tags.find? fun t => t.name == name).map OpenTag.wish =
      (tags.map OpenTag.wish).find? fun w => w.1 == name := fun tags => by
    rw [List.find?_map]
    rfl
  rw [hfind, hfind, h.wishes]

/-- What is left open asks for the same when the last tag is closed, or the last one of a name. -/
theorem Resembles.eraseP (h : s.Resembles s') (isLast : Bool) (name : String) :
    (s.opened.eraseP fun t => isLast || t.name == name).map OpenTag.wish =
      (s'.opened.eraseP fun t => isLast || t.name == name).map OpenTag.wish := by
  have herase : ∀ tags : List OpenTag,
      (tags.eraseP fun t => isLast || t.name == name).map OpenTag.wish =
        (tags.map OpenTag.wish).eraseP fun w => isLast || w.1 == name := fun tags => by
    rw [List.eraseP_map]
    rfl
  rw [herase, herase, h.wishes]

/-- The tag that is closed: the last one of a name, or the last one if there is no name. -/
def closed? (s : State) (name : List Char) : Except MarkupFault (Option OpenTag) :=
  if name.isEmpty then .ok s.opened.head?
  else do
    let name ← liftStyle (Style.name (String.ofList name))
    return s.opened.find? fun t => t.name == name

/-- Closes the tag that is found. -/
def closeFound (s : State) (isLast : Bool) : Option OpenTag → Except MarkupFault State
  | none => .error .closing
  | some tag =>
    let opened := s.opened.eraseP fun t => isLast || t.name == tag.name
    if tag.hasHandler then
      if tag.isCallable then .ok ⟨s.shown.cover tag.start "", opened⟩ else .error .arguments
    else .ok ⟨s.shown.cover tag.start tag.style, opened⟩

/-- A tag is found, and then closed. -/
theorem close_eq (s : State) (name : List Char) :
    s.close name =
      s.closed? (Text.trimChars name) >>= s.closeFound (Text.trimChars name).isEmpty := by
  unfold close closed?
  dsimp only
  split
  · rfl
  · cases liftStyle (Style.name (String.ofList (Text.trimChars name))) with
    | error f => rfl
    | ok name => rfl

/-- The tags that are closed ask for the same. -/
theorem Resembles.closed? (h : s.Resembles s') (name : List Char) :
    (∃ f, s.closed? name = .error f ∧ s'.closed? name = .error f) ∨
      ∃ tag? tag'?, s.closed? name = .ok tag? ∧ s'.closed? name = .ok tag'? ∧
        tag?.map OpenTag.wish = tag'?.map OpenTag.wish := by
  unfold State.closed?
  split
  · refine .inr ⟨_, _, rfl, rfl, ?_⟩
    rw [← List.head?_map, ← List.head?_map, h.wishes]
  · cases liftStyle (Style.name (String.ofList name)) with
    | error f => exact .inl ⟨f, rfl, rfl⟩
    | ok name => exact .inr ⟨_, _, rfl, rfl, h.find? name⟩

/-- The same comes of closing tags that ask for the same. -/
theorem Resembles.closeFound (h : s.Resembles s') (isLast : Bool) {tag? tag'? : Option OpenTag}
    (htags : tag?.map OpenTag.wish = tag'?.map OpenTag.wish) :
    (∃ f, s.closeFound isLast tag? = .error f ∧ s'.closeFound isLast tag'? = .error f) ∨
      ∃ r r', s.closeFound isLast tag? = .ok r ∧ s'.closeFound isLast tag'? = .ok r' ∧
        r.Resembles r' := by
  cases tag? with
  | none =>
    rw [Option.map_eq_none_iff.mp htags.symm]
    exact .inl ⟨_, rfl, rfl⟩
  | some tag =>
    obtain ⟨tag', rfl, htag⟩ := Option.map_eq_some_iff.mp htags.symm
    obtain ⟨hname, hvalue⟩ : tag'.name = tag.name ∧ tag'.value? = tag.value? :=
      Prod.mk.inj htag
    -- whether the tag has a handler, and one that can be called, is decided by what it asks for
    have hhandler : tag'.hasHandler = tag.hasHandler := by rw [OpenTag.hasHandler, hname]; rfl
    have hcallable : tag'.isCallable = tag.isCallable := by rw [OpenTag.isCallable, hvalue]; rfl
    have hstyle : tag'.style = tag.style := by rw [OpenTag.style, hname, hvalue]; rfl
    unfold State.closeFound
    dsimp only
    rw [hhandler, hcallable, hstyle, hname]
    split
    · split
      · exact .inr ⟨_, _, rfl, rfl, h.eraseP _ _, h.cover _ _ _⟩
      · exact .inl ⟨_, rfl, rfl⟩
    · exact .inr ⟨_, _, rfl, rfl, h.eraseP _ _, h.cover _ _ _⟩

/-- The same comes of a closing tag in both states. -/
theorem Resembles.close (h : s.Resembles s') (name : List Char) :
    (∃ f, s.close name = .error f ∧ s'.close name = .error f) ∨
      ∃ r r', s.close name = .ok r ∧ s'.close name = .ok r' ∧ r.Resembles r' := by
  rw [close_eq, close_eq]
  rcases h.closed? (Text.trimChars name) with ⟨f, hf, hf'⟩ | ⟨tag?, tag'?, htag, htag', htags⟩
  · rw [hf, hf']
    exact .inl ⟨f, rfl, rfl⟩
  · rw [htag, htag']
    exact h.closeFound _ htags

/-- The same comes of a tag in both states. -/
theorem Resembles.step_tag (h : s.Resembles s') (tag : List Char) :
    (∃ f, s.step (.tag tag) = .error f ∧ s'.step (.tag tag) = .error f) ∨
      ∃ r r', s.step (.tag tag) = .ok r ∧ s'.step (.tag tag) = .ok r' ∧ r.Resembles r' := by
  unfold State.step
  dsimp only
  split
  · exact h.close _
  · cases liftStyle (Style.name (String.ofList (tag.takeWhile (· != '=')))) with
    | error f => exact .inl ⟨f, rfl, rfl⟩
    | ok name =>
      refine .inr ⟨_, _, rfl, rfl, ?_, h.styles⟩
      simp only [List.map_cons, h.wishes]
      rfl

/-- Tags that are left open ask for styles that are as good. -/
theorem Resembles.finish (h : s.Resembles s') : checkStyles s.finish = checkStyles s'.finish := by
  obtain ⟨shown, opened⟩ := s
  obtain ⟨shown', opened'⟩ := s'
  unfold State.finish
  induction opened generalizing shown opened' shown' with
  | nil =>
    obtain rfl := List.map_eq_nil_iff.mp h.wishes.symm
    exact h.styles
  | cons tag opened ih =>
    obtain ⟨tag', opened', rfl, htag, hopened⟩ := List.map_eq_cons_iff.mp h.wishes.symm
    obtain ⟨hname, hvalue⟩ : tag'.name = tag.name ∧ tag'.value? = tag.value? :=
      Prod.mk.inj htag
    have hstyle : tag'.style = tag.style := by rw [OpenTag.style, hname, hvalue]; rfl
    refine ih (shown.cover tag.start tag.style) (shown'.cover tag'.start tag'.style) opened'
      ⟨hopened.symm, ?_⟩
    rw [hstyle]
    exact h.cover _ _ _

/-- The same fault comes of parts in one state as of the tags among them in the other. -/
theorem Resembles.fault?_eq (h : s.Resembles s') (parts : List MarkupPart) :
    s.fault? parts = s'.fault? (parts.filter MarkupPart.isTag) := by
  -- text keeps the first state in step with the second, which passes over it
  induction parts generalizing s s' with
  | nil =>
    change (match checkStyles s.finish with | .ok _ => none | .error f => some f) =
      (match checkStyles s'.finish with | .ok _ => none | .error f => some f)
    rw [h.finish]
  | cons part parts ih =>
    cases part with
    | text cs =>
      obtain ⟨r, hr, hresembles⟩ := h.step_text cs
      rw [List.filter_cons_of_neg (by simp [MarkupPart.isTag]), ← ih hresembles]
      unfold State.fault?
      rw [List.foldlM_cons, hr]
      rfl
    | tag tag =>
      rw [List.filter_cons_of_pos rfl]
      rcases h.step_tag tag with ⟨f, hf, hf'⟩ | ⟨r, r', hr, hr', hresembles⟩
      · unfold State.fault?
        rw [List.foldlM_cons, List.foldlM_cons, hf, hf']
        rfl
      · have hrest := ih hresembles
        unfold State.fault? at hrest ⊢
        rw [List.foldlM_cons, List.foldlM_cons, hr, hr']
        exact hrest

end State

/-- The fault of a text is that of its tags. -/
theorem fault?_eq (s : String) : fault? s = State.fault? {} (MarkupPart.tags s.toList) :=
  (State.Resembles.refl {}).fault?_eq _

/-- A text without brackets has no fault. -/
theorem fault?_of_notMem {s : String} (h : '[' ∉ s.toList) : fault? s = none := by
  rw [fault?_eq, MarkupPart.tags_of_notMem h]
  rfl

/-- The tags are right, whatever stands before them, and leave open what is open there. -/
def IsClosed (tags : List MarkupPart) : Prop :=
  ∀ s : State, ∃ s', tags.foldlM State.step s = .ok s' ∧ s'.Resembles s

/-- The characters are a word that opens and closes the style of this name. -/
structure IsStyleName (name : List Char) : Prop where
  /-- The word can stand in a tag. -/
  isTagName : MarkupPart.IsTagName name
  /-- No character of the word has a meaning in tags, or is trimmed. -/
  plain : ∀ c ∈ name, c ≠ '/' ∧ c ≠ '@' ∧ c ≠ '=' ∧ Text.isBlank c = false
  /-- The word is the name of the style that it asks for. -/
  named : Style.name (String.ofList name) = .ok (String.ofList name)

/-- A word without blanks is not trimmed. -/
theorem trimChars_of_notBlank {cs : List Char} (h : ∀ c ∈ cs, Text.isBlank c = false) :
    Text.trimChars cs = cs := by
  have hleft : ∀ ds : List Char, (∀ d ∈ ds, Text.isBlank d = false) →
      ds.dropWhile Text.isBlank = ds := by
    intro ds hds
    cases ds with
    | nil => rfl
    | cons d ds => rw [List.dropWhile_cons_of_neg (by simp [hds d List.mem_cons_self])]
  rw [Text.trimChars, Text.trimLeft, hleft cs h, Text.trimRight,
    hleft cs.reverse fun c hc => h c (List.mem_reverse.mp hc), List.reverse_reverse]

namespace IsStyleName

variable {name : List Char}

theorem isTagName_closing (h : IsStyleName name) : MarkupPart.IsTagName ('/' :: name) :=
  ⟨rfl, List.forall_mem_cons.mpr ⟨rfl, h.isTagName.2⟩⟩

/-- A tag of the name switches its style on. -/
theorem step_opening (h : IsStyleName name) (s : State) :
    s.step (.tag name) =
      .ok { s with opened := ⟨s.shown.chars.length, String.ofList name, none⟩ :: s.opened } := by
  have hname : name.takeWhile (· != '=') = name := by
    rw [List.takeWhile_eq_self_iff]
    intro c hc
    simpa using (h.plain c hc).2.2.1
  have hvalue : name.dropWhile (· != '=') = [] := by
    rw [List.dropWhile_eq_nil_iff]
    intro c hc
    simpa using (h.plain c hc).2.2.1
  unfold State.step
  dsimp only
  rw [hname, hvalue]
  split
  · exact absurd rfl (h.plain '/' List.mem_cons_self).1
  · rw [h.named]
    rfl

/-- A tag with a slash before the name switches it off, where it is the last one switched on. -/
theorem step_closing (h : IsStyleName name) {s : State} {tag : OpenTag} {opened : List OpenTag}
    (hopened : s.opened = tag :: opened) (htag : tag.wish = (String.ofList name, none)) :
    s.step (.tag ('/' :: name)) =
      .ok ⟨s.shown.cover tag.start (String.ofList name), opened⟩ := by
  obtain ⟨hname, hvalue⟩ := Prod.mk.inj htag
  have htake : ('/' :: name).takeWhile (· != '=') = '/' :: name := by
    rw [List.takeWhile_eq_self_iff]
    intro c hc
    rcases List.mem_cons.mp hc with rfl | hc
    · rfl
    · simpa using (h.plain c hc).2.2.1
  have hempty : name.isEmpty = false := by
    cases name with
    | nil => cases h.isTagName.1
    | cons => rfl
  have hstyle : tag.style = String.ofList name := by
    rw [OpenTag.style, hname, hvalue]
  have hhandler : tag.hasHandler = false := by
    rw [OpenTag.hasHandler, hname, String.toList_ofList]
    cases name with
    | nil => rfl
    | cons c name => simpa using (h.plain c List.mem_cons_self).2.1
  unfold State.step
  dsimp only
  rw [htake]
  change s.close name = _
  rw [State.close_eq, trimChars_of_notBlank fun c hc => (h.plain c hc).2.2.2, State.closed?, hempty,
    h.named]
  change s.closeFound false (s.opened.find? fun t => t.name == String.ofList name) = _
  rw [hopened, List.find?_cons_of_pos (by simpa using hname), State.closeFound, hhandler, hstyle]
  simp [hopened]

end IsStyleName

namespace IsClosed

variable {name : List Char} {closed closed' : List MarkupPart}

theorem nil : IsClosed [] :=
  fun s => ⟨s, rfl, .refl s⟩

theorem append (h : IsClosed closed) (h' : IsClosed closed') : IsClosed (closed ++ closed') := by
  intro s
  obtain ⟨r, hr, hresembles⟩ := h s
  obtain ⟨r', hr', hresembles'⟩ := h' r
  refine ⟨r', ?_, hresembles'.trans hresembles⟩
  rw [List.foldlM_append, hr]
  exact hr'

/-- Tags of a style around closed tags are closed. -/
theorem nest (hname : IsStyleName name) (h : IsClosed closed) :
    IsClosed (.tag name :: (closed ++ [.tag ('/' :: name)])) := by
  intro s
  obtain ⟨inner, hinner, hresembles⟩ :=
    h { s with opened := ⟨s.shown.chars.length, String.ofList name, none⟩ :: s.opened }
  -- the tags between leave the style open, so that it is the last one switched on
  obtain ⟨tag, opened, hopened, htag, hrest⟩ := List.map_eq_cons_iff.mp hresembles.wishes
  refine ⟨⟨inner.shown.cover tag.start (String.ofList name), opened⟩, ?_, hrest, ?_⟩
  · rw [List.foldlM_cons, hname.step_opening]
    change List.foldlM _ _ _ = _
    rw [List.foldlM_append, hinner]
    change List.foldlM _ _ _ = _
    rw [List.foldlM_cons, hname.step_closing hopened htag]
    rfl
  · rw [checkStyles_cover, hresembles.styles, checkStyles_of_name hname.named]
    cases checkStyles s.shown <;> rfl

end IsClosed

/-- Closed tags in front of a text have no bearing on its fault. -/
theorem fault?_eq_of_tags {s rest : String} {closed : List MarkupPart} (hclosed : IsClosed closed)
    (h : MarkupPart.tags s.toList = closed ++ MarkupPart.tags rest.toList) :
    fault? s = fault? rest := by
  -- behind the closed tags the state resembles the one in front of any text
  obtain ⟨state, hstate, hresembles⟩ := hclosed {}
  have hfilter : (MarkupPart.tags rest.toList).filter MarkupPart.isTag =
      MarkupPart.tags rest.toList := by
    rw [MarkupPart.tags, List.filter_filter]
    simp
  rw [fault?_eq, fault?_eq rest, h, ← hfilter, ← hresembles.fault?_eq, hfilter]
  unfold State.fault?
  rw [List.foldlM_append, hstate]
  rfl

/-- A text that has closed tags alone has no fault. -/
theorem fault?_of_isClosed {s : String} {closed : List MarkupPart} (hclosed : IsClosed closed)
    (h : MarkupPart.tags s.toList = closed) : fault? s = none := by
  have hempty : MarkupPart.tags s.toList = closed ++ MarkupPart.tags "".toList := by
    rw [h, String.toList_empty, MarkupPart.tags_nil, List.append_nil]
  rw [fault?_eq_of_tags hclosed hempty]
  exact fault?_of_notMem (by simp)

end Markup

end AgentPackage.Terminal
