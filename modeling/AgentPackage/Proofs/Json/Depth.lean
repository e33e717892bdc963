import AgentPackage.Json.Reader
import AgentPackage.Proofs.Except

/-!
# How deep a JSON text is nested

Arrays and objects are read by calls one inside the other. How many of them a text takes can be seen
from its brackets, those in strings left out: it is how many are open at once. This module shows that
there is room for reading a text unless more brackets of it are open at once than there is room for
calls. A reader leaves behind what it read the brackets open that were open in front of it.

## Main definitions

* `Json.depth`: how many brackets of a text are open at once;
* `Json.Cursor.Opens`: a cursor stands behind another one, with so many more brackets open.

## Main results

* `Json.readValue_opens`: a value is read with the brackets of the text, as far as there is room;
* `Json.lt_depth_of_read`: where there is too little room, more brackets are open at once.
-/

namespace AgentPackage.Json

open Except

/-- How many brackets are open at once from a place on where `level` are; the flag says whether the
place is in a string. -/
def depthFrom : Bool → ℕ → List Char → ℕ
  | _, level, [] => level
  | true, level, '\\' :: _ :: cs => depthFrom true level cs
  | true, level, c :: cs => depthFrom (c != '\x22') level cs
  | false, level, c :: cs =>
    if c == '\x22' then depthFrom true level cs
    else if c == '[' || c == '\x7b' then depthFrom false (level + 1) cs
    else if c == ']' || c == '\x7d' then max level (depthFrom false (level - 1) cs)
    else depthFrom false level cs

/-- How many brackets of a text are open at once. -/
def depth (text : List Char) : ℕ :=
  depthFrom false 0 text

example : depth "\x7b\"a[\": [[], [1]]\x7d".toList = 3 := by decide

/-- A character is no bracket and no quote. -/
def IsNeutral (c : Char) : Prop :=
  c ∉ ['\x22', '[', '\x7b', ']', '\x7d']

instance (c : Char) : Decidable (IsNeutral c) :=
  inferInstanceAs (Decidable (¬ _))

section Depth

variable {level : ℕ} {c : Char} {cs : List Char}

theorem le_depthFrom (inString : Bool) (level : ℕ) (cs : List Char) :
    level ≤ depthFrom inString level cs := by
  fun_induction depthFrom inString level cs <;> omega

theorem depthFrom_cons (h : IsNeutral c) :
    depthFrom false level (c :: cs) = depthFrom false level cs := by
  simp only [IsNeutral, List.mem_cons, List.not_mem_nil, or_false, not_or] at h
  simp [depthFrom, h]

theorem depthFrom_drop {n : ℕ} (h : ∀ c ∈ cs.take n, IsNeutral c) :
    depthFrom false level (cs.drop n) = depthFrom false level cs := by
  induction n generalizing cs with
  | zero => rfl
  | succ n ih =>
    cases cs with
    | nil => rfl
    | cons d ds =>
      rw [List.take_succ_cons, List.forall_mem_cons] at h
      rw [List.drop_succ_cons, ih h.2, depthFrom_cons h.1]

theorem depthFrom_dropWhile {p : Char → Bool} (hp : ∀ c, p c = true → IsNeutral c) :
    depthFrom false level (cs.dropWhile p) = depthFrom false level cs := by
  induction cs with
  | nil => rfl
  | cons d ds ih =>
    rw [List.dropWhile_cons]
    split
    · rw [ih, depthFrom_cons (hp d ‹_›)]
    · rfl

theorem depthFrom_open (h : c = '[' ∨ c = '\x7b') :
    depthFrom false level (c :: cs) = depthFrom false (level + 1) cs := by
  rcases h with rfl | rfl <;> rfl

theorem depthFrom_close (h : c = ']' ∨ c = '\x7d') :
    depthFrom false level cs ≤ depthFrom false (level + 1) (c :: cs) := by
  rcases h with rfl | rfl <;> exact Nat.le_max_right _ _

end Depth

namespace Cursor

/-- The cursor `c'` stands behind `c`, and so many of the brackets that are open at `c` have been
closed on the way. -/
def Leaves (closed : ℕ) (c c' : Cursor) : Prop :=
  ∀ level, depthFrom false level c'.rest ≤ depthFrom false (level + closed) c.rest

section Leaves

variable {c c' c'' : Cursor} {closed : ℕ} {d : Char} {ds : List Char}

theorem Leaves.refl (c : Cursor) : c.Leaves 0 c :=
  fun _ => Nat.le_refl _

theorem Leaves.trans (h : c.Leaves 0 c') (h' : c'.Leaves closed c'') : c.Leaves closed c'' :=
  fun level => Nat.le_trans (h' level) (h (level + closed))

theorem leaves_of_drop {n : ℕ} (h : ∀ d ∈ c.rest.take n, IsNeutral d) : c.Leaves 0 (c.advance n) :=
  fun _ => Nat.le_of_eq (depthFrom_drop h)

theorem leaves_advance (hrest : c.rest = d :: ds) (hd : IsNeutral d) : c.Leaves 0 (c.advance 1) :=
  leaves_of_drop (by simpa [hrest] using hd)

theorem leaves_span {p : Char → Bool} (hp : ∀ d, p d = true → IsNeutral d) :
    c.Leaves 0 (c.span p).2 :=
  fun _ => Nat.le_of_eq (depthFrom_dropWhile hp)

theorem leaves_of_span {p : Char → Bool} (hp : ∀ d, p d = true → IsNeutral d)
    (h : c.span p = (ds, c')) : c.Leaves 0 c' := by
  have hspan : c.Leaves 0 (c.span p).2 := leaves_span hp
  rwa [h] at hspan

theorem leaves_skipSpace : c.Leaves 0 c.skipSpace := by
  refine leaves_span fun d hd => ?_
  simp only [isSpace, Bool.or_eq_true, beq_iff_eq] at hd
  rcases hd with ((rfl | rfl) | rfl) | rfl <;> decide

theorem leaves_close (hrest : c.rest = d :: ds) (hd : d = ']' ∨ d = '\x7d') :
    c.Leaves 1 (c.advance 1) := by
  intro level
  rw [hrest]
  change depthFrom false level (c.rest.drop 1) ≤ _
  rw [hrest]
  exact depthFrom_close hd

end Leaves

end Cursor

section Nests

variable {α β : Type} {room closed : ℕ} {c : Cursor}

/-- A reader that starts at a cursor closes so many brackets. If there is too little room for its
calls, more brackets are open at once than there is room for. -/
def Nests (room closed : ℕ) (c : Cursor) (x : Except Error (α × Cursor)) : Prop :=
  x.Ensures (fun r => c.Leaves closed r.2) fun e =>
    ∀ call, e = .scalar (@ScalarFault.endlessText call) →
      ∀ level, level + closed + room < depthFrom false (level + closed) c.rest

theorem nests_problem {p : Problem} {c' : Cursor} :
    Nests room closed c (c'.problem p : Except Error (α × Cursor)) := by
  rintro call ⟨⟩

theorem Nests.of_leaves {c' : Cursor} {x : Except Error (α × Cursor)} (h : c.Leaves 0 c')
    (hx : Nests room closed c' x) : Nests room closed c x := by
  refine Ensures.imp hx (fun r hr => h.trans hr) fun e he call hdeep level => ?_
  exact Nat.lt_of_lt_of_le (he call hdeep level) (h (level + closed))

/-- What follows a reader starts at what that leaves. -/
theorem Nests.bind {x : Except Error (α × Cursor)} {f : α × Cursor → Except Error (β × Cursor)}
    (hx : Nests room 0 c x) (hf : ∀ a c', c.Leaves 0 c' → Nests room closed c' (f (a, c'))) :
    Nests room closed c (x >>= f) := by
  cases x with
  | error e =>
    intro call he level
    exact hx call he (level + closed)
  | ok r => exact .of_leaves hx (hf r.1 r.2 hx)

/-- Making a value of what is read changes nothing. -/
theorem Nests.map {x : Except Error (α × Cursor)} {f : α → β} (hx : Nests room closed c x) :
    Nests room closed c (x >>= fun r => pure (f r.1, r.2)) := by
  cases x with
  | error e => exact hx
  | ok r => exact hx

/-- Behind a bracket one more is open, and there is room for one call less. -/
theorem nests_enter {call : Call} {inside : ℕ → Except Error (α × Cursor)} {d : Char}
    {ds : List Char} (hrest : c.rest = d :: ds) (hd : d = '[' ∨ d = '\x7b')
    (hinside : ∀ room, Nests room 1 (c.advance 1) (inside room)) :
    Nests room 0 c (enter call room inside) := by
  have hopen : ∀ level, depthFrom false level c.rest =
      depthFrom false (level + 1) (c.advance 1).rest := by
    intro level
    change _ = depthFrom false (level + 1) (c.rest.drop 1)
    rw [hrest]
    exact depthFrom_open hd
  cases room with
  | zero =>
    intro _ _ level
    exact Nat.lt_of_lt_of_eq (le_depthFrom false (level + 1) _) (hopen level).symm
  | succ room =>
    refine (hinside room).imp (fun r h level => ?_) fun e he call hdeep level => ?_
    · exact Nat.le_trans (h level) (Nat.le_of_eq (hopen level).symm)
    · have hlt := he call hdeep level
      rw [← hopen] at hlt
      change level + 0 + (room + 1) < depthFrom false level c.rest
      omega

end Nests

section Strings

variable {level n : ℕ} {d : Char} {cs : List Char}

theorem depthFrom_plain (hslash : d ≠ '\\') (hquote : d ≠ '\x22') :
    depthFrom true level (d :: cs) = depthFrom true level cs := by
  rw [depthFrom, bne_iff_ne.mpr hquote]
  intro _ _ heq
  exact absurd heq hslash

theorem depthFrom_hex (h : hexValue? d = some n) :
    depthFrom true level (d :: cs) = depthFrom true level cs := by
  have hslash : d ≠ '\\' := by
    rintro rfl
    cases h
  have hquote : d ≠ '\x22' := by
    rintro rfl
    cases h
  exact depthFrom_plain hslash hquote

/-- The digits of an escape are no bracket and do not end a string. -/
theorem depthFrom_hexUnit (h : hexUnit? cs = some n) :
    depthFrom true level (cs.drop 4) = depthFrom true level cs := by
  unfold hexUnit? at h
  split at h
  · simp only [bind, Option.bind_eq_some_iff] at h
    obtain ⟨a, ha, b, hb, c, hc, d, hd, -⟩ := h
    rw [depthFrom_hex ha, depthFrom_hex hb, depthFrom_hex hc, depthFrom_hex hd]
    rfl
  · cases h

/-- An escape with four digits is no bracket and does not end a string. -/
theorem depthFrom_unit (h : hexUnit? cs = some n) :
    depthFrom true level (cs.drop 4) = depthFrom true level ('\\' :: 'u' :: cs) :=
  depthFrom_hexUnit h

/-- The rest of a string leaves the brackets open that were open in front of it. -/
theorem readString_leaves (start : ℕ) {budget : ℕ} {acc : List Char} {c : Cursor} :
    (readString start budget acc c).Ensures
      (fun r => ∀ level, depthFrom false level r.2.rest ≤ depthFrom true level c.rest)
      fun e => ∀ f, e ≠ .scalar f := by
  induction budget generalizing acc c with
  | zero => exact nofun
  | succ budget ih =>
    have hnext : ∀ {n : ℕ} {acc : List Char},
        (∀ level, depthFrom true level (c.rest.drop n) = depthFrom true level c.rest) →
        (readString start budget acc (c.advance n)).Ensures
          (fun r => ∀ level, depthFrom false level r.2.rest ≤ depthFrom true level c.rest)
          fun e => ∀ f, e ≠ .scalar f := fun h =>
      ih.mono fun r hr level => Nat.le_trans (hr level) (Nat.le_of_eq (h level))
    unfold readString
    split
    · exact nofun
    · -- the quote that ends the string
      rename_i cs hrest
      intro level
      change depthFrom false level (c.rest.drop 1) ≤ _
      rw [hrest]
      exact Nat.le_refl _
    · exact nofun
    · rename_i cs hrest
      split
      · exact nofun
      · rename_i n hunit
        have hsix : ∀ level, depthFrom true level (c.rest.drop 6) = depthFrom true level c.rest := by
          intro level
          rw [hrest]
          exact depthFrom_unit hunit
        split
        · split
          · -- the other half of the pair is an escape of the same form
            rename_i m hlow
            refine hnext fun level => ?_
            unfold lowSurrogate? at hlow
            split at hlow
            · rename_i rest hdrop
              have hother : c.rest.drop 6 = '\\' :: 'u' :: rest := by
                rw [hrest]
                exact hdrop
              calc depthFrom true level (c.rest.drop 12)
                  = depthFrom true level ((c.rest.drop 6).drop 6) := by rw [List.drop_drop]
                _ = depthFrom true level (rest.drop 4) := by rw [hother]; rfl
                _ = depthFrom true level (c.rest.drop 6) := by
                  rw [hother, depthFrom_unit (Option.filter_eq_some_iff.mp hlow).1]
                _ = depthFrom true level c.rest := hsix level
            · cases hlow
          · exact hnext hsix
        · split
          · exact hnext hsix
          · exact hnext hsix
    · rename_i e cs _ hrest
      split
      · refine hnext fun level => ?_
        rw [hrest]
        rfl
      · exact nofun
    · rename_i d cs hquote hlast _ hslash hrest
      refine .ite nofun (hnext fun level => ?_)
      rw [hrest]
      refine (depthFrom_plain (fun hd => ?_) hquote).symm
      cases cs with
      | nil => exact hlast hd rfl
      | cons e es => exact hslash e es hd rfl

end Strings

section Readers

variable {room : ℕ} {c c' : Cursor} {n : Number}

theorem isNeutral_of_isDigit {d : Char} (h : d.isDigit = true) : IsNeutral d := by
  intro hmem
  simp only [List.mem_cons, List.not_mem_nil, or_false] at hmem
  rcases hmem with rfl | rfl | rfl | rfl | rfl <;> exact absurd h (by decide)

theorem readFraction_leaves (c : Cursor) : c.Leaves 0 (readFraction c).2 := by
  unfold readFraction
  split
  · rename_i d ds hrest
    split
    · exact (Cursor.leaves_advance hrest (by decide)).trans
        (Cursor.leaves_span fun _ => isNeutral_of_isDigit)
    · exact .refl c
  · exact .refl c

theorem readExponent_leaves (c : Cursor) : c.Leaves 0 (readExponent c).2 := by
  have hdigit : ∀ d, Char.isDigit d = true → IsNeutral d := fun _ => isNeutral_of_isDigit
  unfold readExponent
  dsimp only
  split
  -- the letter with a sign or without one, and no letter
  iterate 6
    · split
      · exact .refl c
      · rename_i hrest _ _ _ _ hspan
        refine Cursor.Leaves.trans (Cursor.leaves_of_drop ?_) (Cursor.leaves_of_span hdigit hspan)
        simp only [hrest, List.take_succ_cons, List.take_zero, List.forall_mem_cons,
          List.not_mem_nil, false_implies, implies_true, and_true]
        decide
  · exact .refl c

/-- A number has no bracket and no quote. -/
theorem readNumber?_leaves (h : readNumber? c = some (n, c')) : c.Leaves 0 c' := by
  unfold readNumber? at h
  split at h
  rename_i negative c₁ hsign
  have hc₁ : c.Leaves 0 c₁ := by
    split at hsign <;> cases hsign
    · exact Cursor.leaves_advance ‹_› (by decide)
    · exact .refl c
  obtain ⟨⟨whole, c₂⟩, hwhole, h⟩ := Option.map_eq_some_iff.mp h
  cases h
  have hc₂ : c₁.Leaves 0 c₂ := by
    split at hwhole
    · cases hwhole
      exact Cursor.leaves_advance ‹_› (by decide)
    · split at hwhole <;> cases hwhole
      exact Cursor.leaves_span fun _ => isNeutral_of_isDigit
    · cases hwhole
  exact hc₁.trans (hc₂.trans ((readFraction_leaves c₂).trans (readExponent_leaves _)))

/-- A literal has no bracket and no quote. -/
theorem isNeutral_of_mem_literals {l : List Char × Value} (hl : l ∈ literals) :
    ∀ d ∈ l.1, IsNeutral d := by
  simp only [literals, List.mem_cons, List.not_mem_nil, or_false] at hl
  rcases hl with rfl | rfl | rfl | rfl | rfl | rfl <;>
  · simp only [String.reduceToList, List.forall_mem_cons, List.not_mem_nil, false_implies,
      implies_true, and_true]
    decide

theorem readAtom_nests : Nests room 0 c (readAtom c) := by
  unfold readAtom
  split
  · rename_i word v hfind
    have hword := List.find?_some hfind
    obtain ⟨rest, hrest⟩ : word <+: c.rest := List.isPrefixOf_iff_prefix.mp hword
    refine Cursor.leaves_of_drop fun d hd => ?_
    rw [← hrest, List.take_left] at hd
    exact isNeutral_of_mem_literals (List.mem_of_find?_eq_some hfind) d hd
  · split
    · rename_i n c' hnumber
      cases hvalue : n.value with
      | ok v => exact readNumber?_leaves hnumber
      | error e =>
        -- an integer with too many digits takes no calls
        rintro call rfl
        unfold Number.value at hvalue
        split at hvalue
        · split at hvalue <;> cases hvalue
        · cases hvalue
    · exact nests_problem

theorem readString_nests {start budget : ℕ} {cs : List Char} (hrest : c.rest = '\x22' :: cs) :
    Nests room 0 c (readString start budget [] (c.advance 1)) := by
  refine (readString_leaves start).imp (fun r hr level => ?_) fun e he _ hcall => (he _ hcall).elim
  rw [hrest]
  refine Nat.le_trans (hr level) ?_
  change depthFrom true level (c.rest.drop 1) ≤ _
  rw [hrest]
  exact Nat.le_refl _

/-- Reading values closes the brackets that it opens, and reading elements and entries one more. -/
theorem readValue_nests (budget : ℕ) :
    (∀ room c, Nests room 0 c (readValue budget room c)) ∧
      (∀ room c, Nests room 1 c (readElements budget room c)) ∧
        ∀ room c, Nests room 1 c (readEntries budget room c) := by
  have hbehind : ∀ {c : Cursor} {d : Char} {ds : List Char}, c.rest = d :: ds → IsNeutral d →
      c.Leaves 0 (c.advance 1).skipSpace := fun hrest hd =>
    (Cursor.leaves_advance hrest hd).trans Cursor.leaves_skipSpace
  -- the three readers call each other with a smaller budget
  induction budget with
  | zero => exact ⟨fun _ _ => nests_problem, fun _ _ => nests_problem, fun _ _ => nests_problem⟩
  | succ budget ih =>
    obtain ⟨hvalue, helements, hentries⟩ := ih
    refine ⟨fun room c => ?_, fun room c => ?_, fun room c => ?_⟩
    · -- a string, an array, an object, or a literal or number
      unfold readValue
      split
      · exact (readString_nests ‹_›).map
      · refine nests_enter ‹_› (.inl rfl) fun room => .of_leaves Cursor.leaves_skipSpace ?_
        dsimp only
        split
        · exact Cursor.leaves_close ‹_› (.inl rfl)
        · exact (helements room _).map
      · refine nests_enter ‹_› (.inr rfl) fun room => .of_leaves Cursor.leaves_skipSpace ?_
        dsimp only
        split
        · exact Cursor.leaves_close ‹_› (.inr rfl)
        · exact .map (f := fun es => Value.map (Fields.ofList es)) (hentries room _)
      · exact readAtom_nests
    · unfold readElements
      refine (hvalue room c).bind fun v c₁ _ => .of_leaves Cursor.leaves_skipSpace ?_
      dsimp only
      split
      · exact Cursor.leaves_close ‹_› (.inl rfl)
      · exact .of_leaves (hbehind ‹_› (by decide)) (helements room _).map
      · exact nests_problem
    · unfold readEntries
      split
      · refine (readString_nests ‹_›).bind fun key c₁ _ => .of_leaves Cursor.leaves_skipSpace ?_
        dsimp only
        split
        · refine .of_leaves (hbehind ‹_› (by decide)) ?_
          refine (hvalue room _).bind fun v c₃ _ => .of_leaves Cursor.leaves_skipSpace ?_
          dsimp only
          split
          · exact Cursor.leaves_close ‹_› (.inr rfl)
          · exact .of_leaves (hbehind ‹_› (by decide)) (hentries room _).map
          · exact nests_problem
        · exact nests_problem
      · exact nests_problem

end Readers

/-- Where there is too little room for reading a text, more of its brackets are open at once than
there is room for calls. -/
theorem lt_depth_of_read {text : List Char} {call : Call}
    (h : read text = .error (.scalar (@ScalarFault.endlessText call))) : callRoom < depth text := by
  have hwhole : (read.readWhole text).Ensures (fun _ => True) fun e =>
      ∀ call, e = .scalar (@ScalarFault.endlessText call) → callRoom < depth text := by
    have hstart : Nests callRoom 0 (Cursor.mk text 0)
        (readValue (2 * text.length + 2) callRoom (Cursor.mk text 0).skipSpace) :=
      .of_leaves Cursor.leaves_skipSpace ((readValue_nests _).1 _ _)
    unfold read.readWhole
    refine Ensures.bind (hstart.imp (fun _ _ => True.intro) fun e he call hcall => ?_) fun r _ => ?_
    · simpa [depth] using he call hcall 0
    · exact .ite True.intro nofun
  unfold read at h
  split at h
  · split at h
    · cases h
    · exact hwhole.of_error h call rfl
  · exact hwhole.of_error h call rfl

end AgentPackage.Json
