import AgentPackage.Audit.Rules.EnvironmentFile
import AgentPackage.Proofs.Text.Occurrence

/-!
# Looking for the local machine in a value

A value names the local machine if one of the texts in it does, at any depth. The search for such a
text takes calls one inside the other, and there is room for only so many of them. This module shows
that the answer of the search is right whenever there is one, that there is one for every value that
is not nested too deep, and that there is none for a value that is, unless a text was found before.

## Main definitions

* `Value.Holds`: a text stands in a value, at any depth;
* `LocalAddress.Names`, `LocalAddress.NamedIn`: a text, or one in a value, names the local machine;
* `LocalAddress.searchCalls`: how many calls one inside the other the search takes.

## Main results

* `LocalAddress.occursInValue_iff`: the local machine is found where a text names it;
* `LocalAddress.search_settles`: what the search answers;
* `LocalAddress.search_buried`: what stands inside too many lists is not found.
-/

namespace AgentPackage

/-- The text stands in the value: it is the value, or it stands in an element of a list or in what a
mapping has under a key. -/
inductive Value.Holds (text : String) : Value → Prop where
  /-- The text is the value. -/
  | str : Holds text (.str text)
  /-- The text stands in an element of a list. -/
  | list {xs : List Value} {x : Value} (hx : x ∈ xs) (h : Holds text x) : Holds text (.list xs)
  /-- The text stands in what a mapping has under a key. -/
  | map {es : Fields} {e : Value × Value} (he : e ∈ es) (h : Holds text e.2) :
      Holds text (.map es)

namespace LocalAddress

/-- The text names the local machine, by its name in any case or by its number. -/
def Names (text : String) : Prop :=
  ∃ word, word <:+: text.toList ∧
    (Text.Spells "localhost".toList word ∨ word = "127.0.0.1".toList)

/-- A text that stands in the value names the local machine. -/
def NamedIn (v : Value) : Prop :=
  ∃ text, v.Holds text ∧ Names text

theorem occursInText_iff {text : String} : occursInText text.toList = true ↔ Names text := by
  rw [occursInText, Bool.or_eq_true, Text.occursIgnoringCase_iff, Text.occursIn_iff]
  constructor
  · rintro (⟨word, hword, hspelled⟩ | hnumber)
    · exact ⟨word, hword, .inl hspelled⟩
    · exact ⟨_, hnumber, .inr rfl⟩
  · rintro ⟨word, hword, hspelled | rfl⟩
    · exact .inl ⟨word, hword, hspelled⟩
    · exact .inr hword

theorem namedIn_str {text : String} : NamedIn (.str text) ↔ Names text := by
  constructor
  · rintro ⟨_, hholds, hnames⟩
    cases hholds
    exact hnames
  · exact fun hnames => ⟨text, .str, hnames⟩

theorem namedIn_list {xs : List Value} : NamedIn (.list xs) ↔ ∃ x ∈ xs, NamedIn x := by
  constructor
  · rintro ⟨text, hholds, hnames⟩
    cases hholds with
    | list hx hholds => exact ⟨_, hx, text, hholds, hnames⟩
  · rintro ⟨x, hx, text, hholds, hnames⟩
    exact ⟨text, .list hx hholds, hnames⟩

theorem namedIn_map {es : Fields} : NamedIn (.map es) ↔ ∃ e ∈ es, NamedIn e.2 := by
  constructor
  · rintro ⟨text, hholds, hnames⟩
    cases hholds with
    | map he hholds => exact ⟨_, he, text, hholds, hnames⟩
  · rintro ⟨e, he, text, hholds, hnames⟩
    exact ⟨text, .map he hholds, hnames⟩

mutual

/-- The local machine is found in a value exactly if a text in it names it. -/
theorem occursInValue_iff : ∀ v : Value, occursInValue v = true ↔ NamedIn v
  | .str s => by rw [occursInValue, occursInText_iff, namedIn_str]
  | .list xs => by rw [occursInValue, occursInSome_iff xs, namedIn_list]
  | .map es => by rw [occursInValue, occursInEntries_iff es, namedIn_map]
  | .null | .bool _ | .int _ | .float _ | .date _ | .dateTime _ | .bytes _ | .tuple _ | .set _ => by
    -- no text stands in the other values
    refine iff_of_false (by simp [occursInValue]) ?_
    rintro ⟨_, hholds, -⟩
    cases hholds

theorem occursInSome_iff : ∀ xs : List Value, occursInSome xs = true ↔ ∃ x ∈ xs, NamedIn x
  | [] => by simp [occursInSome]
  | x :: xs => by
    rw [occursInSome, Bool.or_eq_true, occursInValue_iff x, occursInSome_iff xs,
      List.exists_mem_cons_iff]

theorem occursInEntries_iff : ∀ es : List (Value × Value),
    occursInEntries es = true ↔ ∃ e ∈ es, NamedIn e.2
  | [] => by simp [occursInEntries]
  | (_, v) :: es => by
    rw [occursInEntries, Bool.or_eq_true, occursInValue_iff v, occursInEntries_iff es,
      List.exists_mem_cons_iff]

end

mutual

/-- The number of calls one inside the other that looking through a value takes. -/
def searchCalls : Value → ℕ
  | .list xs => searchCallsAll xs + 3
  | .map es => searchCallsEntries es + 3
  | _ => 2

/-- The greatest number of calls for one of several values. -/
def searchCallsAll : List Value → ℕ
  | [] => 0
  | x :: xs => max (searchCalls x) (searchCallsAll xs)

/-- The greatest number of calls for the value of one of some entries. -/
def searchCallsEntries : List (Value × Value) → ℕ
  | [] => 0
  | (_, v) :: es => max (searchCalls v) (searchCallsEntries es)

end

/-- The answer of a search that takes so many calls is right: it says whether something is found, or
that there is too little room. Something can be found on the way there. -/
def IsAnswer (room calls : ℕ) (found : Bool) (answer : Except Failure Bool) : Prop :=
  (answer = .ok found ∧ (found = true ∨ calls ≤ room)) ∨
    (answer = .error (.tooDeep .function) ∧ room < calls)

section Answers

variable {room calls calls' : ℕ} {found found' : Bool} {answer answer' : Except Failure Bool}

/-- What is no collection is looked at by two calls. -/
theorem isAnswer_leaf (room : ℕ) (found : Bool) :
    IsAnswer room 2 found (if room < 2 then .error (.tooDeep .function) else .ok found) := by
  split
  · exact .inr ⟨rfl, ‹_›⟩
  · exact .inl ⟨rfl, .inr (Nat.not_lt.mp ‹_›)⟩

/-- A collection takes three calls more than what it holds. -/
theorem IsAnswer.enter (h : IsAnswer (room - 3) calls found answer) :
    IsAnswer room (calls + 3) found
      (if room < 3 then .error (.tooDeep .function) else answer) := by
  split
  · exact .inr ⟨rfl, by omega⟩
  · rcases h with ⟨h, hfound | hle⟩ | ⟨h, hlt⟩
    · exact .inl ⟨h, .inl hfound⟩
    · exact .inl ⟨h, .inr (by omega)⟩
    · exact .inr ⟨h, by omega⟩

/-- Two places are looked at one after the other, the second one if the first gives nothing. -/
theorem IsAnswer.orElse :
    IsAnswer room calls found answer → IsAnswer room calls' found' answer' →
      IsAnswer room (max calls calls') (found || found')
        (match answer with
          | .ok false => answer'
          | ended => ended) := by
  intro h h'
  rcases h with ⟨rfl, hfound⟩ | ⟨rfl, hlt⟩
  · cases found with
    | true => exact .inl ⟨rfl, .inl rfl⟩
    | false =>
      have hle : calls ≤ room := hfound.resolve_left Bool.false_ne_true
      rcases h' with ⟨rfl, hfound' | hle'⟩ | ⟨rfl, hlt⟩
      · exact .inl ⟨rfl, .inl hfound'⟩
      · exact .inl ⟨rfl, .inr (max_le hle hle')⟩
      · exact .inr ⟨rfl, Nat.lt_of_lt_of_le hlt (Nat.le_max_right _ _)⟩
  · exact .inr ⟨rfl, Nat.lt_of_lt_of_le hlt (Nat.le_max_left _ _)⟩

end Answers

mutual

/-- The search answers rightly. -/
theorem search_settles : ∀ (room : ℕ) (v : Value),
    IsAnswer room (searchCalls v) (occursInValue v) (search room v)
  | room, .str s => isAnswer_leaf room (occursInText s.toList)
  | room, .list xs => by
    rw [search, searchCalls, occursInValue]
    exact (searchSome_settles (room - 3) xs).enter
  | room, .map es => by
    rw [search, searchCalls, occursInValue]
    exact (searchEntries_settles (room - 3) es).enter
  | room, .null | room, .bool _ | room, .int _ | room, .float _ | room, .date _
  | room, .dateTime _ | room, .bytes _ | room, .tuple _ | room, .set _ => isAnswer_leaf room false

theorem searchSome_settles : ∀ (room : ℕ) (xs : List Value),
    IsAnswer room (searchCallsAll xs) (occursInSome xs) (searchSome room xs)
  | room, [] => .inl ⟨rfl, .inr (Nat.zero_le room)⟩
  | room, x :: xs => by
    rw [searchSome, searchCallsAll, occursInSome]
    exact (search_settles room x).orElse (searchSome_settles room xs)

theorem searchEntries_settles : ∀ (room : ℕ) (es : List (Value × Value)),
    IsAnswer room (searchCallsEntries es) (occursInEntries es) (searchEntries room es)
  | room, [] => .inl ⟨rfl, .inr (Nat.zero_le room)⟩
  | room, (_, v) :: es => by
    rw [searchEntries, searchCallsEntries, occursInEntries]
    exact (search_settles room v).orElse (searchEntries_settles room es)

end

/-- Looking at a value takes two calls at least. -/
theorem search_of_lt_two {room : ℕ} (h : room < 2) (v : Value) :
    search room v = .error (.tooDeep .function) := by
  have h' : room < 3 := Nat.lt_succ_of_lt h
  cases v <;> simp [search, h, h']

/-- What stands inside too many lists is not found, be it the name of the local machine. -/
theorem search_buried {room n : ℕ} (h : room < 3 * n + 2) (v : Value) :
    search room ((fun inner => .list [inner])^[n] v) = .error (.tooDeep .function) := by
  induction n generalizing room with
  | zero => exact search_of_lt_two h v
  | succ n ih =>
    rw [Function.iterate_succ_apply', search]
    split
    · rfl
    · rw [searchSome, ih (by omega)]

end LocalAddress

end AgentPackage
