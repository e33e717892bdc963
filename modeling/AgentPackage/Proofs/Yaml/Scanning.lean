import AgentPackage.Yaml.TokenStream
import AgentPackage.Proofs.Except
import Mathlib.Algebra.Group.Nat.Defs

/-!
# What ends the tokens of a YAML text

Every reader moves the cursor on in the text. Only two things in it cannot be read as what they are:
an escape in quotes for a code that no character has, and a version with a number of more digits
than are converted. The text then holds it.

## Main definitions

* `Yaml.HoldsLargeEscape`: a text holds an escape for a code that no character has;
* `Yaml.HoldsLongVersion`: a text holds a version with a number of too many digits;
* `Yaml.HoldsUnreadable`: a text holds one of the two;
* `Yaml.Cursor.IsIn`: a cursor stands in a text;
* `Yaml.Advances`: a reader moves on in the text, or meets what cannot be read.

## Main results

* `Yaml.holdsUnreadable_of_ofText`: why the tokens of a text end at a scalar.
-/

namespace AgentPackage.Yaml

open Except

variable {α β : Type} {text : List Char}

/-- The text holds an escape for a code that no character has. -/
def HoldsLargeEscape (text : List Char) (fault : ScalarFault) : Prop :=
  ∃ digits, '\\' :: 'U' :: digits <:+: text ∧ digits.length = 8 ∧
    (∀ d ∈ digits, (hexValue? d).isSome = true) ∧ 0x10FFFF < hexNumber digits ∧
      fault = .character (hexNumber digits)

/-- The text holds, behind the name of a directive for the version and possibly a first number of
it, a number of more digits than are converted. -/
def HoldsLongVersion (text : List Char) (fault : ScalarFault) : Prop :=
  ∃ before digits, "%YAML".toList ++ before ++ digits <:+: text ∧
    (∀ c ∈ before, c = ' ' ∨ isDigit c = true ∨ c = '.') ∧ (∀ d ∈ digits, isDigit d = true) ∧
      integerDigitLimit < digits.length ∧ fault = .digitLimit digits.length

/-- Why the tokens of a text end at a scalar. -/
inductive HoldsUnreadable (text : List Char) (fault : ScalarFault) : Prop
  /-- An escape in quotes is for a code that no character has. -/
  | escape : HoldsLargeEscape text fault → HoldsUnreadable text fault
  /-- A number of a version has more digits than are converted. -/
  | version : HoldsLongVersion text fault → HoldsUnreadable text fault

/-- An error is not that of a scalar, or the text holds what cannot be read. -/
def Excused (text : List Char) : Error → Prop
  | .scalar fault => HoldsUnreadable text fault
  | _ => True

namespace Cursor

variable {c : Cursor}

/-- At a character the text is left that starts with it. -/
theorem rest_eq_cons {d : Char} (h : c.head = d) (hd : d ≠ '\x00') : c.rest = d :: c.next.rest := by
  unfold head at h
  unfold next
  cases hrest : c.rest with
  | nil =>
    rw [hrest] at h
    exact absurd h.symm hd
  | cons e es =>
    rw [hrest] at h
    exact congrArg (· :: es) h

/-- The cursor stands in the text. -/
def IsIn (text : List Char) (c : Cursor) : Prop :=
  c.rest <:+ text

/-- What is left before a span is the span and what is left behind it. -/
theorem append_spanFrom (p : Char → Bool) (acc : List Char) (m : Mark) (cs : List Char) :
    (spanFrom p acc m cs).1 ++ (spanFrom p acc m cs).2.rest = acc.reverse ++ cs := by
  induction cs generalizing acc m with
  | nil => rfl
  | cons d ds ih =>
    unfold spanFrom
    split
    · rw [ih, List.reverse_cons, List.append_assoc, List.singleton_append]
    · rfl

theorem append_span (c : Cursor) (p : Char → Bool) : (c.span p).1 ++ (c.span p).2.rest = c.rest :=
  append_spanFrom p [] c.mark c.rest

/-- The characters of a span are those that are asked for. -/
theorem of_mem_spanFrom {p : Char → Bool} {acc : List Char} {m : Mark} {cs : List Char}
    (hacc : ∀ d ∈ acc, p d = true) {d : Char} (h : d ∈ (spanFrom p acc m cs).1) : p d = true := by
  induction cs generalizing acc m with
  | nil => exact hacc d (List.mem_reverse.mp h)
  | cons e es ih =>
    unfold spanFrom at h
    split at h
    · refine ih (fun d hd => ?_) h
      rcases List.mem_cons.mp hd with rfl | hd
      · assumption
      · exact hacc d hd
    · exact hacc d (List.mem_reverse.mp h)

theorem of_mem_span {p : Char → Bool} {d : Char} (h : d ∈ (c.span p).1) : p d = true :=
  of_mem_spanFrom (fun _ hd => absurd hd List.not_mem_nil) h

namespace IsIn

theorem next (h : c.IsIn text) : c.next.IsIn text := by
  unfold Cursor.next
  split
  · exact h
  · rename_i d ds heq
    unfold IsIn at h
    rw [heq] at h
    exact (List.suffix_cons d ds).trans h

theorem advance (h : c.IsIn text) (n : ℕ) : (c.advance n).IsIn text := by
  induction n generalizing c with
  | zero => exact h
  | succ n ih => exact ih h.next

theorem spanFrom {p : Char → Bool} {acc : List Char} {m : Mark} {cs : List Char} (h : cs <:+ text) :
    (spanFrom p acc m cs).2.IsIn text := by
  induction cs generalizing acc m with
  | nil => exact h
  | cons d ds ih =>
    unfold Cursor.spanFrom
    split
    · exact ih ((List.suffix_cons d ds).trans h)
    · exact h

theorem span (h : c.IsIn text) (p : Char → Bool) : (c.span p).2.IsIn text :=
  spanFrom h

theorem skip (h : c.IsIn text) (p : Char → Bool) : (c.skip p).IsIn text :=
  h.span p

theorem skipSpaces (h : c.IsIn text) : c.skipSpaces.IsIn text :=
  h.skip _

theorem skipComment (h : c.IsIn text) : c.skipComment.IsIn text := by
  unfold Cursor.skipComment
  split
  · exact h.skip _
  · exact h

theorem skipIndent (h : c.IsIn text) (n : ℕ) : (c.skipIndent n).IsIn text := by
  induction n generalizing c with
  | zero => exact h
  | succ n ih =>
    unfold Cursor.skipIndent
    split
    · exact ih h.next
    · exact h

theorem lineBreak (h : c.IsIn text) : c.lineBreak.2.IsIn text := by
  unfold Cursor.lineBreak
  split
  · exact h.advance 2
  · split
    · exact h.next
    · split
      · exact h.next
      · exact h
  · exact h

end IsIn

end Cursor

/-- A reader moves on in the text, or meets what cannot be read. -/
def Advances (text : List Char) (x : Except Error (α × Cursor)) : Prop :=
  x.Ensures (fun r => r.2.IsIn text) (Excused text)

/-- What follows a reader starts further on in the text. -/
theorem Advances.bind {x : Except Error (α × Cursor)} {f : α × Cursor → Except Error β}
    {P : β → Prop} (hx : Advances text x)
    (hf : ∀ a c, c.IsIn text → (f (a, c)).Ensures P (Excused text)) :
    (x >>= f).Ensures P (Excused text) :=
  Ensures.bind hx fun r hr => hf r.1 r.2 hr

/-- A hexadecimal digit denotes a number below sixteen. -/
theorem hexValue?_lt {d : Char} {n : ℕ} (h : hexValue? d = some n) : n < 16 := by
  have hcodes : '0'.toNat = 48 ∧ '9'.toNat = 57 ∧ 'a'.toNat = 97 ∧ 'f'.toNat = 102 ∧
      'A'.toNat = 65 ∧ 'F'.toNat = 70 := by
    decide
  have hle : ∀ a b : Char, a ≤ b ↔ a.toNat ≤ b.toNat := fun a b => Iff.rfl
  unfold hexValue? at h
  simp only [hle, Bool.and_eq_true, decide_eq_true_eq] at h
  split_ifs at h <;> cases h <;> omega

/-- Hexadecimal digits denote a number below the power of sixteen to their number. -/
theorem hexNumber_lt (ds : List Char) : hexNumber ds < 16 ^ ds.length := by
  -- for all numbers that the digits before them can denote
  have key : ∀ n, ds.foldl (fun n d => n * 16 + (hexValue? d).getD 0) n <
      (n + 1) * 16 ^ ds.length := by
    induction ds with
    | nil => intro n; simp
    | cons d ds ih =>
      intro n
      have hvalue : (hexValue? d).getD 0 < 16 := by
        cases h : hexValue? d with
        | none => decide
        | some n => exact hexValue?_lt h
      have hstep : n * 16 + (hexValue? d).getD 0 + 1 ≤ (n + 1) * 16 := by omega
      refine Nat.lt_of_lt_of_le (ih _) ?_
      rw [List.length_cons, Nat.pow_succ', ← Nat.mul_assoc]
      exact Nat.mul_le_mul_right _ hstep
  have h := key 0
  rwa [Nat.zero_add, Nat.one_mul] at h

namespace ScalarText

variable {c : Cursor} {start : Mark}

theorem increment?_advances (h : c.IsIn text) : Advances text (increment? start c) := by
  unfold increment?
  split
  · exact h
  · split
    · exact True.intro
    · exact h.next

theorem blockIndicators_advances (h : c.IsIn text) : Advances text (blockIndicators start c) := by
  -- behind the indicators, in either order, comes a space or the end of the line
  have hend : ∀ (r : Chomping × Option ℕ) (c : Cursor), c.IsIn text → Advances text
      (if isSpaceOrEnd c.head then pure (r, c)
        else throw (.within "while scanning a block scalar" start
          ("expected chomping or indentation indicators, but found " ++ shown c.head) c.mark)) := by
    intro r c hc
    split
    · exact hc
    · exact True.intro
  unfold blockIndicators
  dsimp only
  split
  · exact (increment?_advances h.next).bind fun n c hc => hend _ _ hc
  · refine (increment?_advances h).bind fun n c hc => ?_
    dsimp only
    split
    · split
      · exact hend _ _ hc.next
      · exact hend _ _ hc
    · exact hend _ _ hc

theorem ignoredLine_ensures {context : String} (h : c.IsIn text) :
    (ignoredLine context start c).Ensures (Cursor.IsIn text) (Excused text) := by
  unfold ignoredLine
  dsimp only
  split
  · exact h.skipSpaces.skipComment.lineBreak
  · exact True.intro

theorem leadingBreaks_isIn {budget deepest : ℕ} {breaks : List Char} (h : c.IsIn text) :
    (leadingBreaks budget breaks deepest c).2.2.IsIn text := by
  induction budget generalizing breaks deepest c with
  | zero => exact h
  | succ budget ih =>
    unfold leadingBreaks
    split
    · exact ih h.next
    · split
      · exact ih h.lineBreak
      · exact h

theorem indentedBreaks_isIn {indent budget : ℕ} {breaks : List Char} (h : c.IsIn text) :
    (indentedBreaks indent budget breaks c).2.IsIn text := by
  induction budget generalizing breaks c with
  | zero => exact h
  | succ budget ih =>
    unfold indentedBreaks
    dsimp only
    split
    · exact ih (h.skipIndent _).lineBreak
    · exact h.skipIndent _

theorem blockLines_isIn {folded : Bool} {indent budget : ℕ} {joined : String}
    {lastBreak breaks : List Char} (h : c.IsIn text) :
    (blockLines folded indent budget joined lastBreak breaks c).cursor.IsIn text := by
  induction budget generalizing joined lastBreak breaks c with
  | zero => exact h
  | succ budget ih =>
    have hline : (indentedBreaks indent (budget + 1) []
        (c.span fun d => !isBreakOrEnd d).2.lineBreak.2).2.IsIn text :=
      indentedBreaks_isIn (h.span _).lineBreak
    unfold blockLines
    dsimp only
    split
    · split
      · exact ih hline
      · exact hline
    · exact h

theorem block_advances {budget outer : ℕ} {folded : Bool} (h : c.IsIn text) :
    Advances text (block budget outer folded c) := by
  unfold block
  refine (blockIndicators_advances h.next).bind fun r c hc => ?_
  refine (ignoredLine_ensures hc).bind fun c hc => ?_
  dsimp only
  refine blockLines_isIn ?_
  split
  · exact leadingBreaks_isIn hc
  · exact indentedBreaks_isIn hc

theorem quotedBreaks_advances {budget : ℕ} {breaks : List Char} (h : c.IsIn text) :
    Advances text (quotedBreaks start budget breaks c) := by
  induction budget generalizing breaks c with
  | zero => exact h
  | succ budget ih =>
    unfold quotedBreaks
    split
    · exact True.intro
    · dsimp only
      split
      · exact ih (h.skip _).lineBreak
      · exact h.skip _

theorem quotedBlanks_advances {budget : ℕ} (h : c.IsIn text) :
    Advances text (quotedBlanks budget start c) := by
  have hblanks := h.span isSpaceOrTab
  unfold quotedBlanks
  dsimp only
  split
  · exact True.intro
  · split
    · refine (quotedBreaks_advances hblanks.lineBreak).bind fun breaks c hc => ?_
      dsimp only
      split_ifs <;> exact hc
    · exact hblanks

/-- The characters of an escape that gives a code are hexadecimal digits. -/
theorem take_of_badDigit?_eq_none {count : ℕ} (h : badDigit? c count = none) :
    (c.rest.take count).length = count ∧
      ∀ d ∈ c.rest.take count, (hexValue? d).isSome = true := by
  have hlook : ∀ i < count, ∃ d, c.rest[i]? = some d ∧ (hexValue? d).isSome = true := by
    intro i hi
    have hdigit := List.find?_eq_none.mp h (c.look i)
      (List.mem_map_of_mem (List.mem_range.mpr hi))
    rw [Bool.not_eq_true, Option.isNone_eq_false_iff] at hdigit
    unfold Cursor.look at hdigit
    cases hrest : c.rest[i]? with
    | some d =>
      rw [hrest] at hdigit
      exact ⟨d, rfl, hdigit⟩
    | none =>
      -- behind the text stands the null character, which is no digit
      rw [hrest] at hdigit
      exact absurd hdigit (by decide)
  have hlength : count ≤ c.rest.length := by
    by_contra hlt
    obtain ⟨d, hd, -⟩ := hlook c.rest.length (by omega)
    rw [List.getElem?_length] at hd
    cases hd
  refine ⟨List.length_take_of_le hlength, fun d hd => ?_⟩
  obtain ⟨i, hi, rfl⟩ := List.mem_iff_getElem.mp hd
  rw [List.length_take_of_le hlength] at hi
  obtain ⟨e, he, hdigit⟩ := hlook i hi
  rw [List.getElem_take]
  rw [List.getElem?_eq_getElem (by omega)] at he
  rwa [Option.some.inj he]

/-- Reading an escape moves on, unless its code is that of no character. -/
theorem escape_advances {budget : ℕ} (h : c.IsIn text) (hhead : c.head = '\\') :
    Advances text (escape budget start c.next) := by
  have hnext := h.next
  unfold escape
  dsimp only
  split
  · exact hnext.next
  · split
    · rename_i count hcount
      split
      · exact True.intro
      · rename_i hbad
        split
        · rename_i hlarge
          obtain ⟨hlength, hdigits⟩ := take_of_badDigit?_eq_none hbad
          have hlt := hexNumber_lt (c.next.next.rest.take count)
          rw [hlength] at hlt
          -- codes of two and of four digits are small enough
          have hlong : c.next.head = 'U' ∧ count = 8 := by
            unfold escapeLength? at hcount
            split at hcount <;> cases hcount
            · omega
            · omega
            · exact ⟨‹_›, rfl⟩
          obtain ⟨hletter, rfl⟩ := hlong
          -- the escape stands in the text where the cursor does
          refine .escape ⟨c.next.next.rest.take 8, ?_, hlength, hdigits, hlarge, rfl⟩
          have hrest : c.rest = '\\' :: 'U' :: c.next.next.rest := by
            rw [Cursor.rest_eq_cons hhead (by decide), Cursor.rest_eq_cons hletter (by decide)]
          have hprefix : '\\' :: 'U' :: c.next.next.rest.take 8 <+: c.rest := by
            rw [hrest, List.cons_prefix_cons, List.cons_prefix_cons]
            exact ⟨rfl, rfl, List.take_prefix 8 _⟩
          exact hprefix.isInfix.trans h.isInfix
        · exact hnext.next.advance _
    · split
      · exact quotedBreaks_advances hnext.lineBreak
      · exact True.intro

theorem quotedWord_advances {double : Bool} {budget : ℕ} {word : String} (h : c.IsIn text) :
    Advances text (quotedWord start double budget word c) := by
  induction budget generalizing word c with
  | zero => exact h
  | succ budget ih =>
    have hword := h.span isQuotedChar
    unfold quotedWord
    dsimp only
    split
    · exact ih (hword.advance 2)
    · split
      · exact ih hword.next
      · split
        · rename_i hescape
          rw [Bool.and_eq_true, beq_iff_eq] at hescape
          exact (escape_advances hword hescape.2).bind fun e c hc => ih hc
        · exact hword

theorem quotedRest_advances {double : Bool} {budget : ℕ} {word : String} (h : c.IsIn text) :
    Advances text (quotedRest start double budget word c) := by
  induction budget generalizing word c with
  | zero => exact h
  | succ budget ih =>
    unfold quotedRest
    generalize (if double = true then '\x22' else '\'') = quote
    split
    · exact h
    · refine (quotedBlanks_advances h).bind fun blanks c hc => ?_
      exact (quotedWord_advances hc).bind fun word c hc => ih hc

theorem quoted_advances {budget : ℕ} {double : Bool} (h : c.IsIn text) :
    Advances text (quoted budget double c) := by
  unfold quoted
  refine (quotedWord_advances h.next).bind fun word c hc => ?_
  exact (quotedRest_advances hc).bind fun word c hc => hc.next

theorem plainBreaks_isIn {budget : ℕ} {breaks : List Char} (h : c.IsIn text) :
    (plainBreaks budget breaks c).2.IsIn text := by
  induction budget generalizing breaks c with
  | zero => exact h
  | succ budget ih =>
    unfold plainBreaks
    split
    · exact ih h.next
    · split
      · dsimp only
        split
        · exact h.lineBreak
        · exact ih h.lineBreak
      · exact h

theorem plainGap_isIn {budget : ℕ} (h : c.IsIn text) : (plainGap budget c).cursor.IsIn text := by
  have hspaces := h.span (· == ' ')
  have hbreaks : (plainBreaks budget [] (c.span (· == ' ')).2.lineBreak.2).2.IsIn text :=
    plainBreaks_isIn hspaces.lineBreak
  unfold plainGap
  dsimp only
  split
  · split
    · exact hspaces.lineBreak
    · split
      · rename_i heq
        rw [heq] at hbreaks
        exact hbreaks
      · rename_i heq
        rw [heq] at hbreaks
        split_ifs <;> exact hbreaks
  · exact hspaces

theorem plainWords_isIn {inFlow broken : Bool} {indent budget : ℕ} {word : String}
    {gap : List Char} {stop : Mark} (h : c.IsIn text) :
    (plainWords inFlow indent budget word gap stop broken c).cursor.IsIn text := by
  induction budget generalizing word gap stop broken c with
  | zero => exact h
  | succ budget ih =>
    have hgap : (plainGap (budget + 1) (c.advance (plainLength inFlow c.rest))).cursor.IsIn text :=
      plainGap_isIn (h.advance _)
    unfold plainWords
    dsimp only
    split_ifs
    · exact h
    · exact h
    · exact hgap
    · exact ih hgap

theorem plain_isIn {budget indent : ℕ} {inFlow : Bool} (h : c.IsIn text) :
    (plain budget inFlow indent c).2.2.IsIn text :=
  plainWords_isIn h

end ScalarText

namespace Name

variable {c : Cursor} {start : Mark} {context : String} {budget : ℕ}

theorem anchor_advances (h : c.IsIn text) : Advances text (anchor c) := by
  have hname := h.next.span isWordChar
  unfold anchor
  dsimp only
  generalize (if (c.head == '*') = true then "while scanning an alias"
    else "while scanning an anchor") = context
  split
  · exact True.intro
  · split
    · exact True.intro
    · exact hname

theorem handle_advances (h : c.IsIn text) : Advances text (handle context start c) := by
  have hword := h.next.span isWordChar
  unfold handle
  dsimp only
  split
  · exact True.intro
  · split
    · exact h.next
    · split
      · exact True.intro
      · exact hword.next

theorem escapedBytes_advances {bytes : List UInt8} (h : c.IsIn text) :
    Advances text (escapedBytes context start budget bytes c) := by
  induction budget generalizing bytes c with
  | zero => exact h
  | succ budget ih =>
    unfold escapedBytes
    dsimp only
    split
    · exact h
    · split
      · exact True.intro
      · exact ih (h.next.advance 2)

theorem uriChars_advances {any : Bool} {uri : List Char} (h : c.IsIn text) :
    Advances text (uriChars context start budget any uri c) := by
  induction budget generalizing any uri c with
  | zero => exact h
  | succ budget ih =>
    have hpart := h.span fun d => isUriChar d && d != '%'
    unfold uriChars
    dsimp only
    split
    · exact hpart
    · refine (escapedBytes_advances hpart).bind fun bytes c hc => ?_
      dsimp only
      split
      · exact True.intro
      · exact ih hc

theorem uri_advances {what : String} (h : c.IsIn text) :
    Advances text (uri budget what start c) := by
  unfold uri
  refine (uriChars_advances h).bind fun r c hc => ?_
  dsimp only
  split
  · exact hc
  · exact True.intro

theorem tag_advances (h : c.IsIn text) : Advances text (tag budget c) := by
  -- behind a tag, however it is written, comes a space or the end of the line
  have hend : ∀ (handle? : Option String) (suffix : String) (c' : Cursor), c'.IsIn text →
      Advances text (if isSpaceOrEnd c'.head then
          pure ((⟨.tag handle? suffix, c.mark, c'.mark⟩ : Token), c')
        else throw (.within "while scanning a tag" c.mark
          ("expected ' ', but found " ++ shown c'.head) c'.mark)) := by
    intro handle? suffix c' hc'
    split
    · exact hc'
    · exact True.intro
  unfold tag
  dsimp only
  split
  · refine (uri_advances (h.advance 2)).bind fun suffix c' hc' => ?_
    dsimp only
    split
    · exact True.intro
    · exact hend none suffix _ hc'.next
  · split
    · exact hend none "!" _ h.next
    · split
      · refine (handle_advances h).bind fun handle c' hc' => ?_
        exact (uri_advances hc').bind fun suffix c' hc' => hend (some handle) suffix c' hc'
      · exact (uri_advances h.next).bind fun suffix c' hc' => hend (some "!") suffix c' hc'

/-- The cursor stands in a line for the version, behind nothing but blanks, digits and dots. -/
def IsInVersion (text : List Char) (c : Cursor) : Prop :=
  ∃ before, "%YAML".toList ++ before ++ c.rest <:+ text ∧
    ∀ d ∈ before, d = ' ' ∨ isDigit d = true ∨ d = '.'

namespace IsInVersion

theorem isIn (h : IsInVersion text c) : c.IsIn text := by
  obtain ⟨before, hbefore, -⟩ := h
  exact (List.suffix_append _ _).trans hbefore

/-- The line goes on behind more blanks, digits and dots. -/
theorem append (h : IsInVersion text c) {part : List Char} {c' : Cursor}
    (hrest : part ++ c'.rest = c.rest) (hpart : ∀ d ∈ part, d = ' ' ∨ isDigit d = true ∨ d = '.') :
    IsInVersion text c' := by
  obtain ⟨before, hbefore, hblank⟩ := h
  refine ⟨before ++ part, ?_, fun d hd => ?_⟩
  · rwa [← hrest, ← List.append_assoc, List.append_assoc _ before part] at hbefore
  · exact (List.mem_append.mp hd).elim (hblank d) (hpart d)

end IsInVersion

theorem versionNumber_ensures (h : IsInVersion text c) :
    (versionNumber start c).Ensures (fun r => IsInVersion text r.2) (Excused text) := by
  have hsplit := c.append_span isDigit
  have hdigits : ∀ d ∈ (c.span isDigit).1, isDigit d = true := fun d hd => Cursor.of_mem_span hd
  unfold versionNumber
  split
  · exact True.intro
  · rename_i ds c' _ hspan
    rw [hspan] at hsplit hdigits
    split
    · -- the digits stand behind what has been read of the line
      rename_i hlong
      obtain ⟨before, hbefore, hblank⟩ := h
      refine .version ⟨before, ds, ?_, hblank, hdigits, hlong, rfl⟩
      rw [← hsplit, ← List.append_assoc] at hbefore
      exact (List.prefix_append _ _).isInfix.trans hbefore.isInfix
    · exact h.append hsplit fun d hd => .inr (.inl (hdigits d hd))

theorem version_advances (h : IsInVersion text c) : Advances text (version start c) := by
  have hspaces : IsInVersion text c.skipSpaces := by
    refine h.append (c.append_span _) fun d hd => .inl ?_
    exact beq_iff_eq.mp (Cursor.of_mem_span (p := (· == ' ')) hd)
  unfold version
  refine (versionNumber_ensures hspaces).bind fun major hmajor => ?_
  dsimp only
  split
  · exact True.intro
  · rename_i hdot
    have hdot : major.2.head = '.' := by simpa using hdot
    have hnext : IsInVersion text major.2.next :=
      hmajor.append (Cursor.rest_eq_cons hdot (by decide)).symm fun d hd =>
        .inr (.inr (List.mem_singleton.mp hd))
    refine (versionNumber_ensures hnext).bind fun minor hminor => ?_
    split
    · exact True.intro
    · exact hminor.isIn

theorem tagDefinition_advances (h : c.IsIn text) :
    Advances text (tagDefinition budget start c) := by
  unfold tagDefinition
  refine (handle_advances h.skipSpaces).bind fun handle c hc => ?_
  dsimp only
  split
  · exact True.intro
  · refine (uri_advances hc.skipSpaces).bind fun address c hc => ?_
    dsimp only
    split
    · exact True.intro
    · exact hc

theorem directive_advances (h : c.IsIn text) (hhead : c.head = '%') :
    Advances text (directive budget c) := by
  have hname := h.next.span isWordChar
  have hend : ∀ (d : Directive) (stop : Mark) (c' : Cursor), c'.IsIn text →
      Advances text (do
        let c' ← ScalarText.ignoredLine directiveContext c.mark c'
        return ((⟨.directive d, c.mark, stop⟩ : Token), c')) := by
    intro d stop c' hc'
    exact (ScalarText.ignoredLine_ensures hc').bind fun c' hc' => hc'
  unfold directive
  dsimp only
  split
  · exact True.intro
  · split
    · -- the name stands behind the percent sign
      rename_i hversion
      have hrest := Cursor.rest_eq_cons hhead (by decide)
      rw [← c.next.append_span isWordChar, beq_iff_eq.mp hversion] at hrest
      have hline : IsInVersion text (c.next.span isWordChar).2 :=
        ⟨[], by unfold Cursor.IsIn at h; rwa [hrest] at h, fun d hd => (nomatch hd)⟩
      exact (version_advances hline).bind fun d c' hc' => hend d c'.mark c' hc'
    · split
      · exact (tagDefinition_advances hname).bind fun d c' hc' => hend d c'.mark c' hc'
      · exact hend _ _ _ (hname.skip _)

end Name

namespace TokenState

variable {s : TokenState}

/-- The reading of tokens moves on in the text, or meets what cannot be read. -/
def Advances (text : List Char) (x : Except Error TokenState) : Prop :=
  x.Ensures (fun s => s.cursor.IsIn text) (Excused text)

theorem unwindTo_cursor (indent budget : ℕ) (s : TokenState) :
    (unwindTo indent budget s).cursor = s.cursor := by
  induction budget generalizing s with
  | zero => rfl
  | succ budget ih =>
    unfold unwindTo
    split
    · exact ih _
    · rfl

theorem unwind_cursor (s : TokenState) (indent : ℕ) : (s.unwind indent).cursor = s.cursor := by
  unfold unwind
  split
  · exact unwindTo_cursor indent _ s
  · rfl

theorem unwind_isIn (h : s.cursor.IsIn text) (indent : ℕ) : (s.unwind indent).cursor.IsIn text := by
  rwa [unwind_cursor]

theorem skipToToken_isIn {budget : ℕ} (h : s.cursor.IsIn text) :
    (skipToToken budget s).cursor.IsIn text := by
  induction budget generalizing s with
  | zero => exact h
  | succ budget ih =>
    unfold skipToToken
    dsimp only
    split
    · exact ih h.skipSpaces.skipComment.lineBreak
    · exact h.skipSpaces.skipComment

theorem dropStale_advances (h : s.cursor.IsIn text) : Advances text s.dropStale := by
  unfold dropStale
  dsimp only
  split
  · exact True.intro
  · exact h

theorem dropKeyStart_ensures (s : TokenState) :
    s.dropKeyStart.Ensures (fun s' => s'.cursor = s.cursor) (Excused text) := by
  unfold dropKeyStart
  split
  · exact rfl
  · split
    · exact True.intro
    · exact rfl

theorem dropKeyStart_advances (h : s.cursor.IsIn text) : Advances text s.dropKeyStart :=
  (dropKeyStart_ensures s).mono fun _ hs => hs ▸ h

theorem saveKeyStart_advances (h : s.cursor.IsIn text) : Advances text s.saveKeyStart := by
  unfold saveKeyStart
  split
  · exact (dropKeyStart_advances h).bind fun s hs => hs
  · exact h

theorem openBlock_advances {problem : String} {kind : TokenKind} (h : s.cursor.IsIn text) :
    Advances text (s.openBlock problem kind) := by
  unfold openBlock
  split
  · exact h
  · split
    · exact True.intro
    · dsimp only [indentTo]
      split
      · exact h
      · exact h

theorem readEnd_advances (h : s.cursor.IsIn text) : Advances text s.readEnd :=
  (dropKeyStart_advances (unwind_isIn h 0)).bind fun _ hs => hs

theorem readDirective_advances (h : s.cursor.IsIn text) (hhead : s.cursor.head = '%') :
    Advances text s.readDirective := by
  refine Ensures.bind (dropKeyStart_ensures (s.unwind 0)) fun s' hs' => ?_
  rw [unwind_cursor] at hs'
  rw [hs']
  exact (Name.directive_advances h hhead).bind fun t c hc => hc

theorem readMarker_advances {kind : TokenKind} (h : s.cursor.IsIn text) :
    Advances text (s.readMarker kind) :=
  (dropKeyStart_advances (unwind_isIn h 0)).bind fun _ hs => hs.advance 3

theorem readFlowStart_advances {kind : TokenKind} (h : s.cursor.IsIn text) :
    Advances text (s.readFlowStart kind) :=
  (saveKeyStart_advances h).bind fun _ hs => hs.advance 1

theorem readFlowEnd_advances {kind : TokenKind} (h : s.cursor.IsIn text) :
    Advances text (s.readFlowEnd kind) :=
  (dropKeyStart_advances h).bind fun _ hs => hs.advance 1

theorem readFlowEntry_advances (h : s.cursor.IsIn text) : Advances text s.readFlowEntry :=
  (dropKeyStart_advances h).bind fun _ hs => hs.advance 1

theorem readBlockEntry_advances (h : s.cursor.IsIn text) : Advances text s.readBlockEntry :=
  (openBlock_advances h).bind fun _ hs =>
    (dropKeyStart_advances hs).bind fun _ hs => hs.advance 1

theorem readKey_advances (h : s.cursor.IsIn text) : Advances text s.readKey :=
  (openBlock_advances h).bind fun _ hs =>
    (dropKeyStart_advances hs).bind fun _ hs => hs.advance 1

theorem readValue_advances (h : s.cursor.IsIn text) : Advances text s.readValue := by
  unfold readValue
  split
  · dsimp only [indentTo]
    split_ifs <;> exact h.advance 1
  · exact (openBlock_advances h).bind fun _ hs =>
      (dropKeyStart_advances hs).bind fun _ hs => hs.advance 1

theorem readKeyable_advances {read : Cursor → Except Error (Token × Cursor)}
    (hread : ∀ c : Cursor, c.IsIn text → Yaml.Advances text (read c)) (h : s.cursor.IsIn text) :
    Advances text (s.readKeyable read) :=
  (saveKeyStart_advances h).bind fun _ hs => (hread _ hs).bind fun _ _ hc => hc

theorem readBlockScalar_advances {folded : Bool} (h : s.cursor.IsIn text) :
    Advances text (s.readBlockScalar folded) :=
  (dropKeyStart_advances h).bind fun _ hs =>
    (ScalarText.block_advances hs).bind fun _ _ hc => hc

theorem readPlain_advances (h : s.cursor.IsIn text) : Advances text s.readPlain :=
  (saveKeyStart_advances h).bind fun _ hs => ScalarText.plain_isIn hs

theorem step_advances (h : s.cursor.IsIn text) : Advances text s.step := by
  unfold step
  dsimp only
  refine Ensures.bind (dropStale_advances (skipToToken_isIn ?_)) fun s hs => ?_
  · split
    · exact h.next
    · exact h
  · -- one reader for each character that a token can start with
    replace hs := unwind_isIn hs (s.cursor.column + 1)
    refine .ite (readEnd_advances hs) <|
      .ite_of (fun h => readDirective_advances hs (beq_iff_eq.mp (Bool.and_eq_true_iff.mp h).1))
      fun _ =>
      .ite (readMarker_advances hs) <| .ite (readMarker_advances hs) <|
      .ite (readFlowStart_advances hs) <| .ite (readFlowStart_advances hs) <|
      .ite (readFlowEnd_advances hs) <| .ite (readFlowEnd_advances hs) <|
      .ite (readFlowEntry_advances hs) <| .ite (readBlockEntry_advances hs) <|
      .ite (readKey_advances hs) <| .ite (readValue_advances hs) <|
      .ite (readKeyable_advances (fun c hc => Name.anchor_advances hc) hs) <|
      .ite (readKeyable_advances (fun c hc => Name.tag_advances hc) hs) <|
      .ite (readBlockScalar_advances hs) <| .ite (readBlockScalar_advances hs) <|
      .ite (readKeyable_advances (fun c hc => ScalarText.quoted_advances hc) hs) <|
      .ite (readKeyable_advances (fun c hc => ScalarText.quoted_advances hc) hs) <|
      .ite (readPlain_advances hs) True.intro

/-- The tokens are given out until an error that is not of a scalar, or what cannot be read. -/
theorem run_excused {budget : ℕ} {acc : List Token} (h : s.cursor.IsIn text) {e : Error}
    (he : (run budget acc s).2 = some e) : Excused text e := by
  induction budget generalizing acc s with
  | zero => cases he
  | succ budget ih =>
    unfold run at he
    split at he
    · rename_i heq
      cases he
      split at heq
      · cases heq
      · exact (dropStale_advances h).of_error heq
    · rename_i s' heq
      -- dropping stale keys leaves the cursor where it is
      have hs' : s'.cursor.IsIn text := by
        split at heq
        · cases heq
          exact h
        · exact (dropStale_advances h).of_ok heq
      split at he
      · split at he
        · rename_i heq
          cases he
          exact (step_advances hs').of_error heq
        · rename_i heq
          exact ih ((step_advances hs').of_ok heq) he
      · split at he
        · cases he
        · rename_i t ts _
          have hrest : { s' with pending := ts, taken := s'.taken + 1 }.cursor.IsIn text := hs'
          exact ih hrest he

end TokenState

/-- The tokens of a text end at a scalar only if the text holds what cannot be read. -/
theorem holdsUnreadable_of_ofText {f : ScalarFault}
    (h : (Token.ofText text).2 = some (.scalar f)) : HoldsUnreadable text f := by
  have hstart : (TokenState.initial text).cursor.IsIn text := List.suffix_refl text
  exact TokenState.run_excused hstart h

end AgentPackage.Yaml
