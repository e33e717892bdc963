import AgentPackage.Yaml.Cursor

/-!
# Tokens of a YAML text

The smallest units of a YAML text: its indicators, the names of anchors, aliases and tags, its
scalars, and the starts and ends of block collections, which the text shows by indentation
alone.
-/

namespace AgentPackage.Yaml

/-- An instruction in front of a document. -/
inductive Directive where
  /-- The version of the format. -/
  | version (major minor : Nat)
  /-- A tag handle with the text it stands for. -/
  | tag (handle uri : String)
  /-- Any other directive. -/
  | other
  deriving DecidableEq, Repr

/-- The kind and the content of a token. -/
inductive TokenKind where
  /-- The start of the text. -/
  | streamStart
  /-- The end of the text. -/
  | streamEnd
  /-- A directive. -/
  | directive (d : Directive)
  /-- The marker `---`. -/
  | documentStart
  /-- The marker `...`. -/
  | documentEnd
  /-- The start of a block sequence. -/
  | blockSequenceStart
  /-- The start of a block mapping. -/
  | blockMappingStart
  /-- The end of a block collection. -/
  | blockEnd
  /-- The indicator `[`. -/
  | flowSequenceStart
  /-- The indicator `]`. -/
  | flowSequenceEnd
  /-- The opening brace. -/
  | flowMappingStart
  /-- The closing brace. -/
  | flowMappingEnd
  /-- The indicator `?`, or the start of a key without it. -/
  | key
  /-- The indicator `:`. -/
  | value
  /-- The indicator `-`. -/
  | blockEntry
  /-- The indicator `,`. -/
  | flowEntry
  /-- An alias with its name. -/
  | reference (name : String)
  /-- An anchor with its name. -/
  | anchor (name : String)
  /-- A tag: a suffix behind a handle, or on its own. -/
  | tag (handle : Option String) (suffix : String)
  /-- A scalar with its text, and whether it stands without quotes and block indicators. -/
  | scalar (text : String) (plain : Bool)
  deriving DecidableEq, Repr

/-- A token with the places of its start and its end. -/
structure Token where
  /-- The kind and the content. -/
  kind : TokenKind
  /-- Where the token starts. -/
  start : Mark
  /-- Where the token ends. -/
  stop : Mark
  deriving Repr

/-- The name of a kind of token in messages. -/
def TokenKind.name : TokenKind → String
  | .streamStart => "<stream start>"
  | .streamEnd => "<stream end>"
  | .directive _ => "<directive>"
  | .documentStart => "<document start>"
  | .documentEnd => "<document end>"
  | .blockSequenceStart => "<block sequence start>"
  | .blockMappingStart => "<block mapping start>"
  | .blockEnd => "<block end>"
  | .flowSequenceStart => "["
  | .flowSequenceEnd => "]"
  | .flowMappingStart => "\x7b"
  | .flowMappingEnd => "\x7d"
  | .key => "?"
  | .value => ":"
  | .blockEntry => "-"
  | .flowEntry => ","
  | .reference _ => "<alias>"
  | .anchor _ => "<anchor>"
  | .tag _ _ => "<tag>"
  | .scalar _ _ => "<scalar>"

/-- The name of a token in messages, quoted. -/
def Token.shown (t : Token) : String :=
  Text.quoted t.kind.name

end AgentPackage.Yaml
