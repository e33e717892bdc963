import AgentPackage.Proofs.Instruction.Joining
import Mathlib.Data.List.Infix

/-!
# Instructions with either line break

A line may end in a line feed or in a carriage return and a line feed, each line in its own way.
What an instruction holds does not depend on it, so that reading a file, which makes every break a
line feed, gives what its characters give as they stand.

## Main definitions

* `Text.Returned`: a text with carriage returns in front of some of its line feeds;
* `Text.ReturnsEndLines`: no carriage return stands elsewhere.

## Main results

* `Text.returned_normalizeBreaks`: a text whose carriage returns end lines is its normal form with
  carriage returns;
* `Markup.readLines_returned`: carriage returns in front of line feeds are not seen;
* `Markup.parse_returned`: the instruction in a text and in a file with either line break.
-/

namespace AgentPackage

namespace Text

/-- The second text is the first one with a carriage return in front of some of its line feeds. -/
inductive Returned : List Char → List Char → Prop
  /-- An empty text has no line feed. -/
  | nil : Returned [] []
  /-- A character is kept as it is. -/
  | keep (c : Char) {a b : List Char} : Returned a b → Returned (c :: a) (c :: b)
  /-- A line feed gets a carriage return in front of it. -/
  | put {a b : List Char} : Returned a b → Returned ('\n' :: a) ('\r' :: '\n' :: b)

/-- Behind every carriage return of a text stands a line feed. -/
def ReturnsEndLines (text : List Char) : Prop :=
  ∀ rest, '\r' :: rest <:+ text → rest.head? = some '\n'

instance (text : List Char) : Decidable (ReturnsEndLines text) :=
  decidable_of_iff (∀ s ∈ text.tails, s.head? = some '\r' → s.tail.head? = some '\n') <| by
    simp only [List.mem_tails, ReturnsEndLines]
    constructor
    · intro h rest hsuffix
      exact h _ hsuffix rfl
    · rintro h (_ | ⟨c, rest⟩) hsuffix hhead
      · cases hhead
      · obtain rfl := Option.some.inj hhead
        exact h rest hsuffix

theorem ReturnsEndLines.tail {c : Char} {text : List Char} (h : ReturnsEndLines (c :: text)) :
    ReturnsEndLines text :=
  fun rest hsuffix => h rest (hsuffix.trans (List.suffix_cons c text))

/-- Making every break of a text a line feed takes away the carriage returns in front of line feeds,
if there are no others. -/
theorem returned_normalizeBreaks {text : List Char} (h : ReturnsEndLines text) :
    Returned (normalizeBreaks text) text := by
  fun_induction normalizeBreaks text with
  | case1 => exact .nil
  | case2 cs ih => exact .put (ih h.tail.tail)
  | case3 cs hfeed ih =>
    -- a carriage return without a line feed behind it
    have hhead := h cs List.suffix_rfl
    cases cs with
    | nil => cases hhead
    | cons d cs => exact absurd (congrArg (· :: cs) (Option.some.inj hhead)) (hfeed cs)
  | case4 c cs _ _ ih => exact .keep c (ih h.tail)

end Text

namespace Markup

open Text

/-- A carriage return in front of a line feed is not seen. -/
theorem readLines_append_return (a b : List Char) :
    readLines (a ++ '\r' :: '\n' :: b) = readLines (a ++ '\n' :: b) := by
  have hreturn : Text.lines (a ++ '\r' :: '\n' :: b) = Text.lines a ++ Text.lines b :=
    linesFrom_append_return
  obtain ⟨front, rfl | rfl, hfeed⟩ := lines_append_newline a b
  · rw [readLines, readLines, hreturn, hfeed]
  · -- the line feed had a carriage return already, and now the line ends in one
    obtain ⟨init, last, hinit, hlast⟩ : ∃ init last, Text.lines front = init ++ [last] ∧
        Text.lines (front ++ ['\r']) = init ++ [last ++ ['\r']] :=
      exists_linesFrom_concat_return [] front
    have hseen : ∀ s number, ([last ++ ['\r']].zipIdx number).foldl State.step s =
        ([last].zipIdx number).foldl State.step s :=
      fun s number => step_concat_return s last number
    rw [readLines, readLines, hreturn, hfeed, hinit, hlast]
    simp only [List.zipIdx_append, List.foldl_append, hseen, List.length_append,
      List.length_singleton]

/-- Carriage returns in front of line feeds are not seen. -/
theorem readLines_returned {a b : List Char} (h : Returned a b) : readLines b = readLines a := by
  -- behind any text, as the characters in front of a line feed are passed one by one
  suffices hbehind : ∀ front, readLines (front ++ b) = readLines (front ++ a) from hbehind []
  induction h with
  | nil => exact fun front => rfl
  | keep c _ ih =>
    intro front
    simpa using ih (front ++ [c])
  | @put a b _ ih =>
    intro front
    calc readLines (front ++ '\r' :: '\n' :: b)
        = readLines (front ++ '\r' :: '\n' :: a) := by simpa using ih (front ++ ['\r', '\n'])
      _ = readLines (front ++ '\n' :: a) := readLines_append_return front a

/-- The instruction in a text does not depend on the carriage returns in front of its line feeds.
The instruction in a file that is UTF-8 and in which every carriage return stands in front of a line
feed is that in its characters as they stand, although reading the file makes every break a line
feed. -/
theorem parse_returned (agentName : String) (path : Path) :
    (∀ a b, Returned a b → parse agentName path b = parse agentName path a) ∧
      ∀ (t : FileTree) (content : ByteArray) (text : List Char),
        t.readBytes path path = .ok content → Utf8.decode content.toList = .ok text →
          ReturnsEndLines text →
            parseFile t agentName path = .ok (parse agentName path text) := by
  have hreturned : ∀ a b, Returned a b → parse agentName path b = parse agentName path a := by
    intro a b h
    rw [parse, parse, readLines_returned h]
  refine ⟨hreturned, fun t content text hbytes hdecode hends => ?_⟩
  have htext : t.readText path path = .ok (normalizeBreaks text) := by
    rw [FileTree.readText, hbytes]
    simp only [bind, Except.bind, hdecode]
    rfl
  rw [parseFile, htext, hreturned _ _ (returned_normalizeBreaks hends)]

section Mixed

/-- An instruction in which some lines end in a carriage return and a line feed, and some in a line
feed. -/
def mixed : String := "<role>\r\n{@AGENT: guest}\n</role>\r\n<examples>open_door()\r\n"

/-- The instruction in the text with either line break and in a file of it. -/
theorem parse_returned_mixed :
    let path : Path := ⟨.root, ["a.txt"]⟩
    let t : FileTree := ⟨[(["a.txt"], .file mixed.toUTF8)]⟩
    Returned (normalizeBreaks mixed.toList) mixed.toList ∧
      parse "host" path mixed.toList = parse "host" path (normalizeBreaks mixed.toList) ∧
      t.readBytes path path = .ok mixed.toUTF8 ∧
      Utf8.decode mixed.toUTF8.toList = .ok mixed.toList ∧ ReturnsEndLines mixed.toList ∧
      parseFile t "host" path = .ok (parse "host" path mixed.toList) ∧
      (parse "host" path mixed.toList).sections = [⟨"role", 1, 3⟩] ∧
      (parse "host" path mixed.toList).toolCalls = [⟨"open_door", 4⟩] := by
  have hends : ReturnsEndLines mixed.toList := by decide +kernel
  have hreturned := returned_normalizeBreaks hends
  have hdecode : Utf8.decode mixed.toUTF8.toList = .ok mixed.toList := by decide +kernel
  obtain ⟨hparse, hfile⟩ := parse_returned "host" ⟨.root, ["a.txt"]⟩
  refine ⟨hreturned, hparse _ _ hreturned, rfl, hdecode, hends, hfile _ _ _ rfl hdecode hends, ?_⟩
  decide +kernel

end Mixed

end Markup

end AgentPackage
