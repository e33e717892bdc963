import AgentPackage.Instruction.Markup
import Mathlib.Data.List.TakeWhile

/-!
# References and calls in a line

What a reference and a call are, said without the scanner that finds them. Both end at a closing
character, so that a carriage return at the end of a line is part of none.

## Main results

* `Markup.referenceAt?_eq_some`, `Markup.callAt?_eq_some`: what stands at the start of a text;
* `Markup.references_concat_return`, `Markup.calls_concat_return`: a carriage return at the end of a
  line gives no others.
-/

namespace AgentPackage

/-- A text is what it starts with as far as `p` holds and a rest that goes on with a character for
which `p` does not hold. -/
theorem Text.takeWhile_dropWhile {p : Char → Bool} {cs before rest : List Char} {c : Char} :
    cs.takeWhile p = before ∧ cs.dropWhile p = c :: rest ↔
      cs = before ++ c :: rest ∧ (∀ b ∈ before, p b = true) ∧ p c = false := by
  constructor
  · rintro ⟨rfl, hdrop⟩
    refine ⟨?_, fun b hb => List.mem_takeWhile_imp hb, ?_⟩
    · rw [← hdrop, List.takeWhile_append_dropWhile]
    · have hhead := List.head?_dropWhile_not p cs
      rw [hdrop] at hhead
      exact hhead
  · rintro ⟨rfl, hbefore, hc⟩
    rw [List.takeWhile_append_of_pos hbefore, List.dropWhile_append_of_pos hbefore]
    simp [hc]

/-- A text up to the first `x` and the rest behind it. -/
theorem Text.takeWhile_dropWhile_ne {x c : Char} {cs before rest : List Char} :
    cs.takeWhile (· != x) = before ∧ cs.dropWhile (· != x) = c :: rest ↔
      cs = before ++ x :: rest ∧ x ∉ before ∧ c = x := by
  rw [Text.takeWhile_dropWhile]
  constructor
  · rintro ⟨rfl, hbefore, hc⟩
    obtain rfl : c = x := by simpa using hc
    exact ⟨rfl, fun hmem => by simpa using hbefore c hmem, rfl⟩
  · rintro ⟨rfl, hbefore, rfl⟩
    exact ⟨rfl, fun b hb => by simpa using fun heq : b = c => hbefore (heq ▸ hb), by simp⟩

namespace Markup

/-- At the start of a text stands a reference if a marker, a text that is not empty and a closing
brace do. -/
theorem referenceAt?_eq_some {kind : ReferenceKind} {cs rest : List Char} {name : String} :
    referenceAt? kind cs = some (name, rest) ↔
      ∃ body, cs = marker kind ++ (body ++ '\x7d' :: rest) ∧ '\x7d' ∉ body ∧ body ≠ [] ∧
        name = String.ofList (Text.trimChars body) := by
  unfold referenceAt?
  constructor
  · intro h
    split at h
    · rename_i hmarker
      obtain ⟨tail, rfl⟩ := List.isPrefixOf_iff_prefix.mp hmarker
      rw [List.drop_left] at h
      dsimp only at h
      split at h
      · rename_i c rest' hdrop
        obtain ⟨htail, hnotMem, -⟩ := Text.takeWhile_dropWhile_ne.mp ⟨rfl, hdrop⟩
        split at h
        · cases h
        · rename_i hne
          obtain ⟨rfl, rfl⟩ := Prod.mk.inj (Option.some.inj h)
          exact ⟨_, congrArg _ htail, hnotMem, fun hnil => hne (by simp [hnil]), rfl⟩
      · cases h
    · cases h
  · rintro ⟨body, rfl, hnotMem, hne, rfl⟩
    obtain ⟨htake, hdrop⟩ : (body ++ '\x7d' :: rest).takeWhile (· != '\x7d') = body ∧
        (body ++ '\x7d' :: rest).dropWhile (· != '\x7d') = '\x7d' :: rest :=
      Text.takeWhile_dropWhile_ne.mpr ⟨rfl, hnotMem, rfl⟩
    rw [if_pos (List.isPrefixOf_iff_prefix.mpr (List.prefix_append _ _)), List.drop_left]
    dsimp only
    rw [htake, hdrop]
    simp [hne]

/-- The name of a call: a letter or an underscore, then letters, digits, underscores and dots. -/
def IsCallName (word : List Char) : Prop :=
  ∃ c tail, word = c :: tail ∧ startsName c = true ∧ ∀ d ∈ tail, continuesName d = true

/-- A called name may go on with whatever it may start with. -/
theorem continuesName_of_startsName {c : Char} (h : startsName c = true) :
    continuesName c = true := by
  unfold startsName at h
  unfold continuesName Char.isAlphanum
  grind

/-- At the start of a text stands a call if a name, an opening parenthesis, any text and a closing
parenthesis do. -/
theorem callAt?_eq_some {cs rest : List Char} {name : String} :
    callAt? cs = some (name, rest) ↔
      ∃ word arguments, cs = word ++ '(' :: (arguments ++ ')' :: rest) ∧ IsCallName word ∧
        ')' ∉ arguments ∧ name = String.ofList word := by
  unfold callAt?
  constructor
  · intro h
    split at h
    · rename_i c tail
      split at h
      · rename_i hstart
        split at h
        · rename_i arguments harguments
          split at h
          · rename_i d rest' hrest
            obtain ⟨rfl, rfl⟩ := Prod.mk.inj (Option.some.inj h)
            obtain ⟨hcs, hword, -⟩ := Text.takeWhile_dropWhile.mp ⟨rfl, harguments⟩
            obtain ⟨hbody, hnotMem, -⟩ := Text.takeWhile_dropWhile_ne.mp ⟨rfl, hrest⟩
            refine ⟨_, _, by rw [← hbody]; exact hcs, ?_, hnotMem, rfl⟩
            have hcontinues := continuesName_of_startsName hstart
            rw [List.takeWhile_cons_of_pos hcontinues] at hword ⊢
            exact ⟨c, _, rfl, hstart, fun d hd => hword d (List.mem_cons_of_mem _ hd)⟩
          · cases h
        · cases h
      · cases h
    · cases h
  · rintro ⟨word, arguments, rfl, ⟨c, tail, rfl, hstart, htail⟩, hnotMem, rfl⟩
    have hword : ∀ d ∈ c :: tail, continuesName d = true :=
      List.forall_mem_cons.mpr ⟨continuesName_of_startsName hstart, htail⟩
    obtain ⟨htake, hdrop⟩ :
        (c :: tail ++ '(' :: (arguments ++ ')' :: rest)).takeWhile continuesName = c :: tail ∧
          (c :: tail ++ '(' :: (arguments ++ ')' :: rest)).dropWhile continuesName =
            '(' :: (arguments ++ ')' :: rest) :=
      Text.takeWhile_dropWhile.mpr ⟨rfl, hword, by decide⟩
    have hrest : (arguments ++ ')' :: rest).dropWhile (· != ')') = ')' :: rest :=
      (Text.takeWhile_dropWhile_ne.mpr ⟨rfl, hnotMem, rfl⟩).2
    simp only [List.cons_append] at htake hdrop ⊢
    rw [if_pos hstart, hdrop]
    simp only [hrest, htake]

section Steps

variable {kind : ReferenceKind} {c : Char} {cs rest : List Char} {name : String}

theorem references_nil : references kind [] = [] := by
  rw [references]
  cases kind <;> rfl

/-- Behind a reference the scan goes on behind its closing brace. -/
theorem references_of_some (h : referenceAt? kind cs = some (name, rest)) :
    references kind cs = name :: references kind rest := by
  rw [references]
  split <;> simp_all

/-- A character at which no reference starts is passed over. -/
theorem references_of_none (h : referenceAt? kind (c :: cs) = none) :
    references kind (c :: cs) = references kind cs := by
  rw [references]
  split <;> simp_all

theorem calls_nil : calls [] = [] := by
  rw [calls]
  rfl

/-- Behind a call the scan goes on behind its closing parenthesis. -/
theorem calls_of_some (h : callAt? cs = some (name, rest)) : calls cs = name :: calls rest := by
  rw [calls]
  split <;> simp_all

/-- A character at which no call starts is passed over. -/
theorem calls_of_none (h : callAt? (c :: cs) = none) : calls (c :: cs) = calls cs := by
  rw [calls]
  split <;> simp_all

end Steps

section Return

/-- A text that ends in another character than the one before a rest ends in the same character as
the rest. -/
theorem exists_concat_of_append {x y : Char} (hne : x ≠ y) {cs before rest : List Char}
    (h : cs ++ [x] = before ++ y :: rest) :
    ∃ rest', rest = rest' ++ [x] ∧ cs = before ++ y :: rest' := by
  rcases List.eq_nil_or_concat rest with rfl | ⟨rest', z, rfl⟩
  · obtain ⟨-, hlast⟩ := List.append_inj' h rfl
    exact absurd (List.cons.inj hlast).1 hne
  · rw [List.concat_eq_append] at h ⊢
    rw [← List.cons_append, ← List.append_assoc] at h
    obtain ⟨hcs, hlast⟩ := List.append_inj' h rfl
    exact ⟨rest', by rw [(List.cons.inj hlast).1], hcs⟩

/-- A carriage return behind a text is no part of a reference at its start. -/
theorem referenceAt?_concat_return (kind : ReferenceKind) (cs : List Char) :
    referenceAt? kind (cs ++ ['\r']) =
      (referenceAt? kind cs).map fun r => (r.1, r.2 ++ ['\r']) := by
  -- the carriage return lies behind the closing brace, as it is none itself
  refine Option.ext fun ⟨name, rest⟩ => ?_
  rw [referenceAt?_eq_some, Option.map_eq_some_iff]
  constructor
  · rintro ⟨body, hcs, hnotMem, hne, rfl⟩
    rw [← List.append_assoc] at hcs
    obtain ⟨rest', rfl, rfl⟩ := exists_concat_of_append (by decide) hcs
    exact ⟨(_, rest'), referenceAt?_eq_some.mpr
      ⟨body, List.append_assoc _ _ _, hnotMem, hne, rfl⟩, rfl⟩
  · rintro ⟨⟨name', rest'⟩, hreference, hpair⟩
    obtain ⟨rfl, rfl⟩ := Prod.mk.inj hpair
    obtain ⟨body, rfl, hnotMem, hne, hname⟩ := referenceAt?_eq_some.mp hreference
    exact ⟨body, by simp, hnotMem, hne, hname⟩

/-- A carriage return behind a text is no part of a call at its start. -/
theorem callAt?_concat_return (cs : List Char) :
    callAt? (cs ++ ['\r']) = (callAt? cs).map fun r => (r.1, r.2 ++ ['\r']) := by
  refine Option.ext fun ⟨name, rest⟩ => ?_
  rw [callAt?_eq_some, Option.map_eq_some_iff]
  constructor
  · rintro ⟨word, arguments, hcs, hword, hnotMem, rfl⟩
    rw [← List.cons_append, ← List.append_assoc] at hcs
    obtain ⟨rest', rfl, rfl⟩ := exists_concat_of_append (by decide) hcs
    exact ⟨(_, rest'), callAt?_eq_some.mpr
      ⟨word, arguments, by simp, hword, hnotMem, rfl⟩, rfl⟩
  · rintro ⟨⟨name', rest'⟩, hcall, hpair⟩
    obtain ⟨rfl, rfl⟩ := Prod.mk.inj hpair
    obtain ⟨word, arguments, rfl, hword, hnotMem, hname⟩ := callAt?_eq_some.mp hcall
    exact ⟨word, arguments, by simp, hword, hnotMem, hname⟩

/-- A carriage return at the end of a line gives no other references. -/
theorem references_concat_return (kind : ReferenceKind) (cs : List Char) :
    references kind (cs ++ ['\r']) = references kind cs := by
  fun_induction references kind cs with
  | case1 cs name rest hsome ih =>
    -- the scan goes on behind the reference, where the carriage return still is
    rw [references_of_some (by rw [referenceAt?_concat_return, hsome, Option.map_some]), ih]
  | case2 hnone =>
    -- only the carriage return is left
    have hreturn := referenceAt?_concat_return kind []
    rw [hnone] at hreturn
    rw [List.nil_append, references_of_none hreturn, references_nil]
  | case3 c cs hnone ih =>
    rw [List.cons_append, references_of_none, ih]
    rw [← List.cons_append, referenceAt?_concat_return, hnone, Option.map_none]

/-- A carriage return at the end of a line gives no other calls. -/
theorem calls_concat_return (cs : List Char) : calls (cs ++ ['\r']) = calls cs := by
  fun_induction calls cs with
  | case1 cs name rest hsome ih =>
    rw [calls_of_some (by rw [callAt?_concat_return, hsome, Option.map_some]), ih]
  | case2 hnone =>
    rw [List.nil_append, calls_of_none (callAt?_concat_return []), calls_nil]
  | case3 c cs hnone ih =>
    rw [List.cons_append, calls_of_none, ih]
    rw [← List.cons_append, callAt?_concat_return, hnone, Option.map_none]

end Return

end Markup

end AgentPackage
