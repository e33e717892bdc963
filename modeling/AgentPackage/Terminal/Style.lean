import AgentPackage.Terminal.Style.Colours
import AgentPackage.Text.LowerCase
import AgentPackage.Text.Split
import AgentPackage.Value.Numeral

/-!
# Styles

A style is asked for by words: attributes, a colour, a background behind `on`, and an address behind
`link`; an attribute behind `not` is switched off. Several wordings ask for one style, which has one
text: the attributes in their order, and then the rest. Main statement: the style without any part is
written `none`.
-/

namespace AgentPackage.Terminal

/-- The attributes of text. -/
inductive Attribute where
  /-- Bold. -/
  | bold
  /-- Dim. -/
  | dim
  /-- Italic. -/
  | italic
  /-- Underlined. -/
  | underline
  /-- Blinking. -/
  | blink
  /-- Blinking fast. -/
  | blink2
  /-- With colour and background exchanged. -/
  | reverse
  /-- Hidden. -/
  | conceal
  /-- Struck out. -/
  | strike
  /-- Underlined twice. -/
  | underline2
  /-- Framed. -/
  | frame
  /-- Encircled. -/
  | encircle
  /-- Overlined. -/
  | overline
  deriving DecidableEq, Repr

namespace Attribute

/-- The attributes in the order in which they are written. -/
def all : List Attribute :=
  [.bold, .dim, .italic, .underline, .blink, .blink2, .reverse, .conceal, .strike, .underline2,
    .frame, .encircle, .overline]

/-- The word for an attribute. -/
def name : Attribute → String
  | .bold => "bold"
  | .dim => "dim"
  | .italic => "italic"
  | .underline => "underline"
  | .blink => "blink"
  | .blink2 => "blink2"
  | .reverse => "reverse"
  | .conceal => "conceal"
  | .strike => "strike"
  | .underline2 => "underline2"
  | .frame => "frame"
  | .encircle => "encircle"
  | .overline => "overline"

/-- The short word for an attribute. -/
def shortName? : Attribute → Option String
  | .bold => some "b"
  | .dim => some "d"
  | .italic => some "i"
  | .underline => some "u"
  | .reverse => some "r"
  | .conceal => some "c"
  | .strike => some "s"
  | .underline2 => some "uu"
  | .overline => some "o"
  | _ => none

/-- The attribute that a word stands for. -/
def ofWord? (word : String) : Option Attribute :=
  all.find? fun a => a.name == word || a.shortName? == some word

end Attribute

/-- Why words ask for no style. -/
inductive StyleFault where
  /-- A word has no meaning where it stands. -/
  | meaningless
  /-- A component of a colour is no number. -/
  | component
  deriving DecidableEq, Repr

namespace Colour

/-- The greatest number of a colour, and of a component of one. -/
def greatest : Nat := 255

/-- What stands between an opening with a bracket and the bracket that closes it. -/
def inBrackets? (opening : String) (cs : List Char) : Option (List Char) :=
  let inner := cs.drop opening.length
  if opening.toList.isPrefixOf cs && inner.getLast? == some ')' then some inner.dropLast else none

/-- Whether a lower-case hexadecimal number stands behind a hash. -/
def isHexadecimal : List Char → Bool
  | '#' :: ds => ds.length == 6 && ds.all fun d => d.isDigit || ('a' ≤ d && d ≤ 'f')
  | _ => false

/-- Whether a colour is given by its number. -/
def isNumbered (cs : List Char) : Bool :=
  (inBrackets? "color(" cs).any fun ds =>
    0 < ds.length && ds.length ≤ 3 && ds.all Char.isDigit && Decimal.natOfDigits ds ≤ greatest

/-- The value of a component. -/
def component (cs : List Char) : Except StyleFault Int :=
  (Numeral.int 10 (String.ofList cs)).mapError fun _ => .component

/-- Whether three components fit a colour. -/
def checkComponents (cs : List Char) : Except StyleFault Unit :=
  match Text.split (· == ',') cs with
  | [red, green, blue] => do
    let components := [← component red, ← component green, ← component blue]
    if components.all (· ≤ greatest) then return () else throw .meaningless
  | _ => .error .meaningless

/-- Checks that a word, in lower case, stands for a colour. -/
def check (word : String) : Except StyleFault Unit :=
  let cs := word.toList
  if word == "default" || names.contains word || isHexadecimal cs || isNumbered cs then .ok ()
  else
    match inBrackets? "rgb(" cs with
    | some inner =>
      let mayStand (c : Char) : Bool := c == ',' || (Text.asciiDigit c).isDigit
      if inner.isEmpty || !inner.all mayStand then .error .meaningless else checkComponents inner
    | none => .error .meaningless

end Colour

/-- A style. -/
structure Style where
  /-- The attributes that are switched on or off, the latest first. -/
  attributes : List (Attribute × Bool) := []
  /-- The colour. -/
  colour : Option String := none
  /-- The colour of the background. -/
  background : Option String := none
  /-- The address that the text leads to. -/
  link : Option String := none
  deriving DecidableEq, Repr

namespace Style

/-- The style that words ask for, in addition to `s`. -/
def addWords (s : Style) : List String → Except StyleFault Style
  | [] => .ok s
  | word :: words =>
    match Text.lower word with
    | "on" =>
      match words with
      | [] => .error .meaningless
      | colour :: words => do
        let colour := Text.lower colour
        Colour.check colour
        addWords { s with background := some colour } words
    | "not" =>
      match words with
      | [] => .error .meaningless
      | off :: words =>
        match Attribute.ofWord? off with
        | some a => addWords { s with attributes := (a, false) :: s.attributes } words
        | none => .error .meaningless
    | "link" =>
      match words with
      | [] => .error .meaningless
      | address :: words => addWords { s with link := some address } words
    | name =>
      match Attribute.ofWord? name with
      | some a => addWords { s with attributes := (a, true) :: s.attributes } words
      | none => do
        Colour.check name
        addWords { s with colour := some name } words

/-- The style that a text asks for. -/
def ofText (text : String) : Except StyleFault Style :=
  if Text.trim text == "none" then .ok {} else addWords {} (Text.words text)

/-- The words for the attributes of a style. -/
def attributeWords (s : Style) : List String :=
  Attribute.all.filterMap fun a =>
    (s.attributes.lookup a).map fun isOn => if isOn then a.name else "not " ++ a.name

/-- The text of a style. -/
def text (s : Style) : String :=
  let words := s.attributeWords ++ s.colour.toList ++
    (s.background.map ("on " ++ ·)).toList ++ (s.link.map ("link " ++ ·)).toList
  if words.isEmpty then "none" else " ".intercalate words

/-- The one name of the style that a text asks for; a text without a meaning is a name too. -/
def name (text : String) : Except StyleFault String :=
  match ofText text with
  | .ok s => .ok s.text
  | .error .meaningless => .ok (Text.lower (Text.trim text))
  | .error .component => .error .component

end Style

end AgentPackage.Terminal
