namespace TemplateHover.Yaml

/-- Why a text is no stream of documents. -/
inductive Fault where
  /-- A tab stands where only spaces may indent. -/
  | tabIndentation
  /-- A comment starts without a blank before it. -/
  | gluedComment
  /-- A line is indented less than its surroundings demand. -/
  | indentation
  /-- Something that has to be a key has no colon behind it. -/
  | missingColon
  /-- Flow collections are nested too deeply. -/
  | depth
  /-- A dash, question mark or colon stands where it can start nothing. -/
  | misplacedIndicator
  /-- A dash, question mark or colon needs a space behind it. -/
  | missingSpace
  /-- More text follows where the line has to end. -/
  | trailingText
  /-- A character that is kept for later use starts a scalar. -/
  | reservedCharacter
  /-- A quoted scalar does not end in its document. -/
  | unclosedQuote
  /-- An escape of a quoted scalar or of a tag has no meaning. -/
  | badEscape
  /-- The header or the first line of a block scalar is malformed. -/
  | badBlockScalar
  /-- An anchor or alias has no name. -/
  | namelessAnchor
  /-- A tag is malformed. -/
  | badTag
  /-- A directive is malformed. -/
  | badDirective
  /-- A directive is given twice. -/
  | repeatedDirective
  /-- A tag uses a handle that no directive declares. -/
  | undeclaredHandle
  /-- An alias has no anchor in its document. -/
  | unknownAlias
  /-- The tokens do not form a node, a collection or a document. -/
  | unexpectedToken
deriving DecidableEq, Repr

end TemplateHover.Yaml
