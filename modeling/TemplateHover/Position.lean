namespace TemplateHover

/-- A place in a document. Lines count from zero, and so do the UTF-16 columns of a line. -/
structure Position where
  line : UInt32
  character : UInt32
deriving DecidableEq, Repr

/-- The text between two places. -/
structure Range where
  start : Position
  stop : Position
deriving DecidableEq, Repr

end TemplateHover
