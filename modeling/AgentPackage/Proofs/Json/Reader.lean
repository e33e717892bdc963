import AgentPackage.Document
import AgentPackage.Proofs.Json.Depth

/-!
# What reading JSON gives

Every reader moves the cursor on in the text. The only scalar that cannot be read is an integer with
too many digits, which the text then holds. Else a text that is not malformed can only be nested too
deep to be read.

## Main definitions

* `Json.HoldsLongInteger`: a text holds a row of digits that is too long for an integer;
* `Json.HoldsFault`: a text holds such a row, or is nested too deep;
* `Json.Cursor.IsIn`: a cursor stands in a text;
* `Json.Advances`: a reader moves on in the text, or meets such a row of digits or too many brackets.

## Main results

* `Json.holdsFault_of_read`: why a text cannot be read.
-/

namespace AgentPackage.Json

open Except

variable {α β : Type} {c c' : Cursor} {text : List Char}

/-- The text holds the digits of an integer that has too many of them. -/
def HoldsLongInteger (text : List Char) (fault : ScalarFault) : Prop :=
  ∃ digits, digits <:+: text ∧ (∀ d ∈ digits, d.isDigit = true) ∧
    integerDigitLimit < digits.length ∧ fault = .digitLimit digits.length

/-- The text holds an integer that cannot be read, or more of its brackets are open at once than
there is room for. -/
def HoldsFault (text : List Char) (fault : ScalarFault) : Prop :=
  HoldsLongInteger text fault ∨
    (∃ call, fault = @ScalarFault.endlessText call) ∧ callRoom < depth text

/-- An error is not that of a scalar, or the text holds the integer that cannot be read, or there was
no room for more calls. -/
def Excused (text : List Char) : Error → Prop
  | .scalar fault => HoldsLongInteger text fault ∨ ∃ call, fault = @ScalarFault.endlessText call
  | .malformed _ _ => True

namespace Cursor

/-- The cursor stands in the text. -/
def IsIn (text : List Char) (c : Cursor) : Prop :=
  c.rest <:+ text

namespace IsIn

theorem advance (h : c.IsIn text) (n : ℕ) : (c.advance n).IsIn text :=
  (List.drop_suffix n c.rest).trans h

theorem span (h : c.IsIn text) (p : Char → Bool) : (c.span p).2.IsIn text :=
  (List.dropWhile_suffix p).trans h

theorem of_span (h : c.IsIn text) {p : Char → Bool} {cs : List Char} (hspan : c.span p = (cs, c')) :
    c'.IsIn text := by
  have hc := h.span p
  rwa [hspan] at hc

theorem skipSpace (h : c.IsIn text) : c.skipSpace.IsIn text :=
  h.span isSpace

end IsIn

end Cursor

/-- A reader moves on in the text, or meets an integer that cannot be read or too many brackets. -/
def Advances (text : List Char) (x : Except Error (α × Cursor)) : Prop :=
  x.Ensures (fun r => r.2.IsIn text) (Excused text)

/-- What follows a reader starts further on in the text. -/
theorem Advances.bind {x : Except Error (α × Cursor)} {f : α × Cursor → Except Error β}
    {P : β → Prop} (hx : Advances text x)
    (hf : ∀ a c, c.IsIn text → (f (a, c)).Ensures P (Excused text)) :
    (x >>= f).Ensures P (Excused text) :=
  Ensures.bind hx fun r hr => hf r.1 r.2 hr

theorem readString_advances (start : ℕ) {budget : ℕ} {acc : List Char} (h : c.IsIn text) :
    Advances text (readString start budget acc c) := by
  induction budget generalizing acc c with
  | zero => exact True.intro
  | succ budget ih =>
    unfold readString
    split
    · exact True.intro
    · exact h.advance 1
    · exact True.intro
    · split
      · exact True.intro
      · split
        · split <;> exact ih (h.advance _)
        · split <;> exact ih (h.advance _)
    · split
      · exact ih (h.advance 2)
      · exact True.intro
    · exact .ite True.intro (ih (h.advance 1))

theorem readFraction_isIn (h : c.IsIn text) : (readFraction c).2.IsIn text := by
  unfold readFraction
  split
  · split
    · exact (h.advance 1).span _
    · exact h
  · exact h

theorem readExponent_isIn (h : c.IsIn text) : (readExponent c).2.IsIn text := by
  unfold readExponent
  dsimp only
  split
  -- the letter with a sign or without one, and no letter
  iterate 6
    · split
      · exact h
      · exact (h.advance _).of_span ‹_›
  · exact h

/-- Reading a number moves on, over its digits. -/
theorem readNumber?_eq_some (hc : c.IsIn text) {n : Number} (h : readNumber? c = some (n, c')) :
    c'.IsIn text ∧ n.whole <:+: text ∧ ∀ d ∈ n.whole, d.isDigit = true := by
  unfold readNumber? at h
  split at h
  rename_i negative c₁ hsign
  have hc₁ : c₁.IsIn text := by
    split at hsign <;> cases hsign
    · exact hc.advance 1
    · exact hc
  obtain ⟨⟨whole, c₂⟩, hwhole, h⟩ := Option.map_eq_some_iff.mp h
  cases h
  have hread : c₂.IsIn text ∧ whole <:+: c₁.rest ∧ ∀ d ∈ whole, d.isDigit = true := by
    split at hwhole
    · rename_i rest hrest
      cases hwhole
      refine ⟨hc₁.advance 1, ?_, List.forall_mem_singleton.mpr rfl⟩
      rw [hrest]
      exact ⟨[], rest, rfl⟩
    · split at hwhole <;> cases hwhole
      exact ⟨hc₁.span _, (List.takeWhile_prefix _).isInfix, List.all_eq_true.mp List.all_takeWhile⟩
    · cases hwhole
  exact ⟨readExponent_isIn (readFraction_isIn hread.1), hread.2.1.trans hc₁.isInfix, hread.2.2⟩

theorem readAtom_advances (h : c.IsIn text) : Advances text (readAtom c) := by
  unfold readAtom
  split
  · exact h.advance _
  · split
    · rename_i n c' hnumber
      obtain ⟨hc', hinfix, hdigits⟩ := readNumber?_eq_some h hnumber
      cases hvalue : n.value with
      | ok v => exact hc'
      | error e =>
        -- only an integer with too many digits has no value
        unfold Number.value at hvalue
        split at hvalue
        · split at hvalue <;> cases hvalue
          exact .inl ⟨n.whole, hinfix, hdigits, ‹_›, rfl⟩
        · cases hvalue
    · exact True.intro

theorem enter_advances {call : Call} {room : ℕ} {inside : ℕ → Except Error (α × Cursor)}
    (h : ∀ room, Advances text (inside room)) : Advances text (enter call room inside) := by
  cases room with
  | zero => exact .inr ⟨call, rfl⟩
  | succ room => exact h room

/-- Reading values, elements and entries moves on. -/
theorem readValue_advances (budget : ℕ) :
    (∀ room, ∀ c : Cursor, c.IsIn text → Advances text (readValue budget room c)) ∧
      (∀ room, ∀ c : Cursor, c.IsIn text → Advances text (readElements budget room c)) ∧
        ∀ room, ∀ c : Cursor, c.IsIn text → Advances text (readEntries budget room c) := by
  -- the three readers call each other with a smaller budget
  induction budget with
  | zero => exact ⟨fun _ _ _ => True.intro, fun _ _ _ => True.intro, fun _ _ _ => True.intro⟩
  | succ budget ih =>
    obtain ⟨hvalue, helements, hentries⟩ := ih
    refine ⟨fun room c hc => ?_, fun room c hc => ?_, fun room c hc => ?_⟩
    · -- a string, an array, an object, or a literal or number
      have hstart := (hc.advance 1).skipSpace
      unfold readValue
      split
      · exact (readString_advances _ (hc.advance 1)).bind fun s c hc => hc
      · refine enter_advances fun room => ?_
        dsimp only
        split
        · exact hstart.advance 1
        · exact (helements room _ hstart).bind fun xs c hc => hc
      · refine enter_advances fun room => ?_
        dsimp only
        split
        · exact hstart.advance 1
        · exact (hentries room _ hstart).bind fun es c hc => hc
      · exact readAtom_advances hc
    · unfold readElements
      refine (hvalue room c hc).bind fun v c hc => ?_
      dsimp only
      split
      · exact hc.skipSpace.advance 1
      · exact (helements room _ (hc.skipSpace.advance 1).skipSpace).bind fun vs c hc => hc
      · exact True.intro
    · unfold readEntries
      split
      · refine (readString_advances _ (hc.advance 1)).bind fun key c hc => ?_
        dsimp only
        split
        · refine (hvalue room _ (hc.skipSpace.advance 1).skipSpace).bind fun v c hc => ?_
          dsimp only
          split
          · exact hc.skipSpace.advance 1
          · exact (hentries room _ (hc.skipSpace.advance 1).skipSpace).bind fun es c hc => hc
          · exact True.intro
        · exact True.intro
      · exact True.intro

/-- A scalar that cannot be read is an integer of the text with too many digits, and other than that
a text can only be nested too deep. -/
theorem holdsFault_of_read {f : ScalarFault} (h : read text = .error (.scalar f)) :
    HoldsFault text f := by
  have hwhole : (read.readWhole text).Ensures (fun _ => True) (Excused text) := by
    have hstart : (Cursor.mk text 0).IsIn text := List.suffix_refl text
    unfold read.readWhole
    refine ((readValue_advances _).1 _ _ hstart.skipSpace).bind fun v c hc => ?_
    exact .ite True.intro True.intro
  have hexcused : Excused text (.scalar f) := by
    unfold read at h
    split at h
    · split at h
      · cases h
      · exact hwhole.of_error h
    · exact hwhole.of_error h
  rcases hexcused with hlong | ⟨call, rfl⟩
  · exact .inl hlong
  · exact .inr ⟨⟨call, rfl⟩, lt_depth_of_read h⟩

end AgentPackage.Json
