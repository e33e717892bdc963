import AgentPackage.Terminal.Emoji.Names
import AgentPackage.Text.Blank
import AgentPackage.Text.LowerCase

/-!
# Emoji

In text for the terminal an emoji can be written as its name between colons. A name that ends in
`-emoji` or `-text` asks for the coloured or the plain form. What is no name of an emoji stays as it
is written.
-/

namespace AgentPackage.Terminal.Emoji

/-- The names that stand in a row of words by turns with what they name. -/
def pairs : List String → List (String × String)
  | name :: emoji :: rest => (name, emoji) :: pairs rest
  | _ => []

/-- The emoji that have a name. -/
def named : List (String × String) :=
  rows.flatMap fun row => pairs (Text.words row)

/-- The endings of a name that ask for a form, and the characters behind an emoji that give it. -/
def forms : List (List Char × List Char) :=
  [("-emoji".toList, [Char.ofNat 0xFE0F]), ("-text".toList, [Char.ofNat 0xFE0E])]

/-- The emoji that a text between two colons names. -/
def ofName? (name : List Char) : Option (List Char) :=
  let (bare, form) := match forms.find? fun f => f.1.isSuffixOf name with
    | some (ending, form) => (name.take (name.length - ending.length), form)
    | none => (name, [])
  (named.lookup (Text.lower (String.ofList bare))).map fun emoji => emoji.toList ++ form

/-- The text without blanks up to the next colon, and what stands behind that. -/
def upToColon? (cs : List Char) : Option (List Char × List Char) :=
  let inName (c : Char) : Bool := c != ':' && !Text.isBlank c
  match cs.dropWhile inName with
  | ':' :: behind => some (cs.takeWhile inName, behind)
  | _ => none

/-- What stands behind the next colon is shorter than the text. -/
theorem length_lt_of_upToColon? {cs name behind : List Char}
    (h : upToColon? cs = some (name, behind)) : behind.length < cs.length := by
  unfold upToColon? at h
  simp only at h
  split at h
  · rename_i rest hrest
    simp only [Option.some.injEq, Prod.mk.injEq] at h
    have h1 := congrArg List.length hrest
    have h2 := (List.dropWhile_sublist (fun c => c != ':' && !Text.isBlank c) (l := cs)).length_le
    simp only [List.length_cons] at h1
    rw [← h.2]
    omega
  · simp at h

/-- A text with the emoji in place of their names. -/
def replace (cs : List Char) : List Char :=
  match cs with
  | [] => []
  | c :: cs =>
    if c == ':' then
      match _h : upToColon? cs with
      | some (name, behind) =>
        (ofName? name).getD (':' :: name ++ [':']) ++ replace behind
      | none => c :: replace cs
    else c :: replace cs
termination_by cs.length
decreasing_by
  · have := length_lt_of_upToColon? (by assumption)
    simp only [List.length_cons]
    omega
  · simp
  · simp

end AgentPackage.Terminal.Emoji
