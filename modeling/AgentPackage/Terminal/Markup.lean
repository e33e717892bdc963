import AgentPackage.Terminal.Constant
import AgentPackage.Terminal.Emoji
import AgentPackage.Terminal.Style
import AgentPackage.Terminal.Styled
import AgentPackage.Text.WordCharacters

/-!
# Terminal markup

Text for the terminal may hold tags in square brackets that switch styles on and off. A terminal
without styles shows the text without its tags. A tag starts with a lower-case letter, a hash, a
slash or an at sign; other brackets stand for themselves. A closing tag has to have something to
close, which it names by a style of any wording. A tag with an at sign names a handler, to which it
hands constants. Between tags emoji can be written by name.
-/

namespace AgentPackage.Terminal

/-- A part of a text with markup. -/
inductive MarkupPart where
  /-- Text that is shown. -/
  | text (cs : List Char)
  /-- The content of a tag. -/
  | tag (cs : List Char)
  deriving DecidableEq, Repr

namespace MarkupPart

/-- Whether a tag may start with `c`. -/
def startsTag (c : Char) : Bool :=
  c.isLower || c == '#' || c == '/' || c == '@'

/-- Whether `c` may stand inside a tag. -/
def isInner (c : Char) : Bool :=
  c != '[' && c != ']'

/-- A tag that stands at the start of `cs` behind any number of backslashes: how many there are,
the content of the tag, and the characters behind it. -/
def tagAt? (cs : List Char) : Option (Nat × List Char × List Char) :=
  match cs.dropWhile (· == '\\') with
  | '[' :: c :: rest =>
    if startsTag c then
      match rest.dropWhile isInner with
      | ']' :: behind =>
        some ((cs.takeWhile (· == '\\')).length, c :: rest.takeWhile isInner, behind)
      | _ => none
    else none
  | _ => none

/-- What stands behind a tag is shorter than the text from its start. -/
theorem length_lt_of_tagAt? {cs tag behind : List Char} {n : Nat}
    (h : tagAt? cs = some (n, tag, behind)) : behind.length < cs.length := by
  unfold tagAt? at h
  split at h
  · rename_i c rest hc
    split at h
    · split at h
      · rename_i tail hr
        simp only [Option.some.injEq, Prod.mk.injEq] at h
        have h1 := congrArg List.length hc
        have h2 := congrArg List.length hr
        have h3 := (List.dropWhile_sublist (fun c => c == '\\') (l := cs)).length_le
        have h4 := (List.dropWhile_sublist isInner (l := rest)).length_le
        simp only [List.length_cons] at h1 h2
        rw [← h.2.2]
        omega
      · simp at h
    · simp at h
  · simp at h

/-- Text before a tag as a part, unless it is empty. `plain` has the latest character first. -/
def flush (plain : List Char) : List MarkupPart :=
  if plain.isEmpty then [] else [.text plain.reverse]

/-- What `n` backslashes in front of a tag and the tag stand for: two backslashes for one, and one
that is left takes the tag for text. -/
def escaped (n : Nat) (tag : List Char) : List MarkupPart :=
  flush (List.replicate (n / 2) '\\') ++
    [if n % 2 == 1 then .text ('[' :: tag ++ [']']) else .tag tag]

/-- The parts of a text. `plain` holds the characters before `cs` that belong to no part yet,
latest first. -/
def ofText (plain cs : List Char) : List MarkupPart :=
  match _h : tagAt? cs with
  | some (n, content, behind) => flush plain ++ escaped n content ++ ofText [] behind
  | none =>
    match cs with
    | [] => flush plain
    | c :: cs => ofText (c :: plain) cs
termination_by cs.length
decreasing_by
  · exact length_lt_of_tagAt? (by assumption)
  · simp

end MarkupPart

/-- Why a text with markup cannot be shown. -/
inductive MarkupFault where
  /-- A tag closes nothing. -/
  | closing
  /-- What is handed to a handler is no constant. -/
  | arguments
  /-- A component of a colour is no number. -/
  | component
  deriving DecidableEq, Repr

/-- What is wrong, as a sentence. -/
def MarkupFault.message : MarkupFault → String
  | .closing => "A closing tag in a text with markup closes nothing."
  | .arguments => "A handler in a text with markup is handed what is no constant."
  | .component => "A colour in a text with markup has a component that is no number."

namespace Markup

/-- A text with every backslash in front of an opening bracket removed. -/
def unescape : List Char → List Char
  | '\\' :: '[' :: cs => '[' :: unescape cs
  | c :: cs => c :: unescape cs
  | [] => []

/-- A tag that is open. -/
structure OpenTag where
  /-- The number of characters shown before it. -/
  start : Nat
  /-- The name of its style. -/
  name : String
  /-- What stands behind an equals sign. -/
  value? : Option String

/-- The text by which a tag asks for its style. -/
def OpenTag.style (t : OpenTag) : String :=
  match t.value? with
  | some value => t.name ++ " " ++ value
  | none => t.name

/-- Whether a tag names a handler. -/
def OpenTag.hasHandler (t : OpenTag) : Bool :=
  t.name.toList.head? == some '@'

/-- The part of a value that has to be constants: what stands in brackets behind the name of an
action, nothing in brackets if it is just such a name, and else all of it. -/
def arguments (value : List Char) : List Char :=
  let value := Text.trimChars value
  let inName (c : Char) : Bool := Text.isWordCharacter c || c == '.'
  match value.dropWhile inName with
  | [] => "()".toList
  | '(' :: inner =>
    if inner.getLast? == some ')' && !inner.contains '\n' then '(' :: inner else value
  | _ => value

/-- Whether what a tag hands to its handler is written rightly. -/
def OpenTag.isCallable (t : OpenTag) : Bool :=
  match t.value? with
  | none => true
  | some value => value.isEmpty || Constant.isWritten (arguments value.toList)

/-- Gives a fault of a style as one of the markup. -/
def liftStyle {α : Type} : Except StyleFault α → Except MarkupFault α
  | .ok a => .ok a
  | .error _ => .error .component

/-- The reading of parts. -/
structure State where
  /-- What is shown so far. -/
  shown : Styled := {}
  /-- The tags that are open, the latest first. -/
  opened : List OpenTag := []

namespace State

/-- Closes the tag of a name that was opened last, or the last one if there is no name. -/
def close (s : State) (name : List Char) : Except MarkupFault State := do
  let name := Text.trimChars name
  let tag? ← if name.isEmpty then pure s.opened.head? else do
    let name ← liftStyle (Style.name (String.ofList name))
    pure (s.opened.find? fun t => t.name == name)
  match tag? with
  | none => throw .closing
  | some tag =>
    let opened := s.opened.eraseP fun t => name.isEmpty || t.name == tag.name
    if tag.hasHandler then
      if tag.isCallable then return ⟨s.shown.cover tag.start "", opened⟩ else throw .arguments
    else return ⟨s.shown.cover tag.start tag.style, opened⟩

/-- Reads a part. -/
def step (s : State) : MarkupPart → Except MarkupFault State
  | .text cs => .ok { s with shown := s.shown.append (Emoji.replace (unescape cs)) }
  | .tag tag => do
    match tag.takeWhile (· != '=') with
    | '/' :: name => s.close name
    | name =>
      let value? := match tag.dropWhile (· != '=') with
        | [] => none
        | _ :: value => some (String.ofList value)
      let name ← liftStyle (Style.name (String.ofList name))
      return { s with opened := ⟨s.shown.chars.length, name, value?⟩ :: s.opened }

/-- What is shown in the end: tags that are open reach to the end of the text. -/
def finish (s : State) : Styled :=
  s.opened.foldl (fun shown tag => shown.cover tag.start tag.style) s.shown

end State

/-- What parts show. -/
def styledParts (parts : List MarkupPart) : Except MarkupFault Styled := do
  return (← parts.foldlM State.step {}).finish

/-- What a text with markup shows. -/
def styled (s : String) : Except MarkupFault Styled :=
  styledParts (MarkupPart.ofText [] s.toList)

/-- Checks that the styles of a text can be looked up. A text without a meaning asks for none. -/
def checkStyles (s : Styled) : Except MarkupFault Unit :=
  s.spans.forM fun p =>
    match Style.ofText p.style with
    | .error .component => .error .component
    | _ => .ok ()

end Markup

end AgentPackage.Terminal
