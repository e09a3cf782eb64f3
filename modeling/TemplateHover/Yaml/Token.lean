import TemplateHover.Yaml.Cursor

namespace TemplateHover.Yaml

/-- How a scalar is written. -/
inductive ScalarStyle where
  | plain
  | singleQuoted
  | doubleQuoted
  | literal
  | folded
deriving DecidableEq, Repr

/-- The kinds of tokens of a stream. -/
inductive TokenKind where
  | streamStart
  | streamEnd
  | versionDirective
  | tagDirective (handle : String)
  | documentStart
  | documentEnd
  | blockSequenceStart
  | blockMappingStart
  | blockEnd
  | flowSequenceStart
  | flowSequenceEnd
  | flowMappingStart
  | flowMappingEnd
  | blockEntry
  | flowEntry
  | key
  | value
  | alias (name : String)
  | anchor (name : String)
  | tag (handle : String)
  | scalar (style : ScalarStyle) (value : String)
deriving DecidableEq, Repr

/-- A token and its place. -/
structure Token where
  mark : Mark
  kind : TokenKind
deriving DecidableEq, Repr

end TemplateHover.Yaml
