namespace TemplateHover

/-- One piece of a pattern: a literal text, or characters of a class. -/
inductive Piece where
  | literal (text : List Char)
  | one (kind : Char → Bool)
  | optional (kind : Char → Bool)
  | many (kind : Char → Bool)

/-- Whether some run of characters of the class leaves a rest that satisfies the test. -/
def afterMany (kind : Char → Bool) (test : List Char → Bool) : List Char → Bool
  | [] => test []
  | c :: rest => test (c :: rest) || (kind c && afterMany kind test rest)

/-- Whether the first character is of the class and the rest satisfies the test. -/
def afterOne (kind : Char → Bool) (test : List Char → Bool) : List Char → Bool
  | [] => false
  | c :: rest => kind c && test rest

/-- Whether a text starts with a match of the pieces in their order. -/
def matchesAtStart : List Piece → List Char → Bool
  | [], _ => true
  | .literal text :: pieces, line =>
    text.isPrefixOf line && matchesAtStart pieces (line.drop text.length)
  | .one kind :: pieces, line => afterOne kind (matchesAtStart pieces) line
  | .optional kind :: pieces, line =>
    matchesAtStart pieces line || afterOne kind (matchesAtStart pieces) line
  | .many kind :: pieces, line => afterMany kind (matchesAtStart pieces) line

/-- Whether a match of the pieces occurs anywhere in a text. -/
def matchesAnywhere (pieces : List Piece) (line : List Char) : Bool :=
  afterMany (fun _ => true) (matchesAtStart pieces) line

end TemplateHover
