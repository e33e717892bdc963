import AgentPackage.Document
import AgentPackage.Proofs.FileTree.Listed
import AgentPackage.Proofs.Yaml.Composing

/-!
# Plain documents

The values of documents are trees whose texts are made of characters. Two things that a text can
spell are more than that: half of a surrogate pair, which is no character, and an alias of a list,
by which one list stands in two places.

## Main definitions

* `Document.writesHalf`: a text has an escape for half of a surrogate pair;
* `Document.listsApart`: no list of a text stands in two places;
* `Document.Plain`: a text whose value is such a tree;
* `FileTree.WritesNoHalf`: no document of a tree has an escape for half of a pair.
-/

namespace AgentPackage

/-- A code is that of half of a surrogate pair. -/
def isHalfOfPair (code : ℕ) : Bool :=
  0xD800 ≤ code && code ≤ 0xDFFF

namespace Json

/-- Behind the next characters, of which there are `skip`, stands an escape for half of a pair
without its other half. -/
def writesHalfFrom : ℕ → List Char → Bool
  | _, [] => false
  | skip + 1, _ :: cs => writesHalfFrom skip cs
  | 0, '\\' :: cs =>
    match cs with
    | 'u' :: ds =>
      match hexUnit? ds with
      | none => writesHalfFrom 0 cs
      | some n =>
        -- a second half that follows a first one belongs to it
        if 0xD800 ≤ n && n ≤ 0xDBFF && (lowSurrogate? (ds.drop 4)).isSome then
          writesHalfFrom 11 cs
        else isHalfOfPair n || writesHalfFrom 5 cs
    | _ => writesHalfFrom 1 cs
  | 0, _ :: cs => writesHalfFrom 0 cs

/-- A text has an escape for half of a surrogate pair without its other half. -/
def writesHalf (text : List Char) : Bool :=
  writesHalfFrom 0 text

example : writesHalf "[\"\\ud83d\\ude00\", \"\\\\ud800\"]".toList = false := by decide
example : writesHalf "[\"\\ude00\\ud83d\"]".toList = true := by decide

end Json

namespace Yaml

/-- A text starts with an escape for half of a surrogate pair. -/
def startsWithHalf : List Char → Bool
  | '\\' :: 'u' :: ds => isHalfOfPair (hexNumber (ds.take 4))
  | '\\' :: 'U' :: ds => isHalfOfPair (hexNumber (ds.take 8))
  | _ => false

/-- A text has an escape for half of a surrogate pair; two of them make no character here. -/
def writesHalf (text : List Char) : Bool :=
  text.tails.any startsWithHalf

/-- The lists at a node and inside it, each as often as ways lead to it. The budget bounds the
length of the ways. -/
def Graph.lists (g : Graph) : ℕ → NodeId → List NodeId
  | 0, _ => []
  | budget + 1, id =>
    match (g.node id).content with
    | .scalar _ => []
    | .sequence items => id :: items.flatMap (lists g budget)
    | .mapping entries => entries.flatMap fun e => lists g budget e.1 ++ lists g budget e.2

/-- Only one way leads to each list of a text. -/
def listsApart (text : List Char) : Bool :=
  match compose text with
  | .ok (some (g, root)) => decide (g.lists (2 * g.nodes.size + 1) root).Nodup
  | _ => true

end Yaml

namespace Document

/-- A text has an escape for half of a surrogate pair. -/
def writesHalf : Format → List Char → Bool
  | .json => Json.writesHalf
  | .yaml => Yaml.writesHalf

/-- No list of a text stands in two places, as it can by an alias in YAML. -/
def listsApart : Format → List Char → Bool
  | .json, _ => true
  | .yaml, text => Yaml.listsApart text

/-- The value of a text is a tree whose texts are made of characters. -/
structure Plain (format : Format) (text : List Char) : Prop where
  /-- The text has no escape for half of a surrogate pair. -/
  whole : writesHalf format text = false
  /-- No list of the text stands in two places. -/
  apart : listsApart format text = true

instance (format : Format) (text : List Char) : Decidable (Plain format text) :=
  decidable_of_iff (writesHalf format text = false ∧ listsApart format text = true)
    ⟨fun h => ⟨h.1, h.2⟩, fun h => ⟨h.whole, h.apart⟩⟩

end Document

/-- No document of a tree has an escape for half of a surrogate pair. -/
def FileTree.WritesNoHalf (t : FileTree) : Prop :=
  ∀ format path text, Document.formatOf? path = some format → t.readText path path = .ok text →
    Document.writesHalf format text = false

/-- A file has an escape for half of a surrogate pair in one of the formats. -/
def Entry.writesHalf : Entry → Bool
  | .file content =>
    match Text.Utf8.decode content.toList with
    | .ok cs =>
      Document.writesHalf .json (Text.normalizeBreaks cs) ||
        Document.writesHalf .yaml (Text.normalizeBreaks cs)
    | .error _ => false
  | _ => false

/-- The documents of a tree are among its files. -/
theorem FileTree.writesNoHalf_of_entries {t : FileTree}
    (h : ∀ e ∈ t.entries, e.2.writesHalf = false) : t.WritesNoHalf := by
  intro format path text _ htext
  obtain ⟨content, cs, hend, hcs, rfl⟩ := end?_of_readText htext
  obtain ⟨place, hmem⟩ := exists_mem_of_end? hend
  have hentry := h _ hmem
  unfold Entry.writesHalf at hentry
  dsimp only at hentry
  rw [hcs] at hentry
  obtain ⟨hjson, hyaml⟩ := Bool.or_eq_false_iff.mp hentry
  cases format with
  | json => exact hjson
  | yaml => exact hyaml

end AgentPackage
