namespace TemplateHover.Yaml

/-- A place in a stream. Lines count from one; columns and the index count characters from zero. -/
structure Mark where
  line : Nat
  column : Nat
  index : Nat
deriving DecidableEq, Repr

/-- The place `count` characters further on the same line. -/
def Mark.right (mark : Mark) (count : Nat) : Mark :=
  { mark with column := mark.column + count, index := mark.index + count }

/-- The start of the next line, behind a line break. -/
def Mark.down (mark : Mark) : Mark :=
  { line := mark.line + 1, column := 0, index := mark.index + 1 }

/-- A place in a stream with the characters from there on. It is `fresh` as long as only blanks
have been read on the line. -/
structure Cursor where
  rest : List Char
  mark : Mark
  fresh : Bool
deriving DecidableEq, Repr

/-- Whether the character is a space or a tab, the only blanks of a stream. -/
def isBlank (c : Char) : Bool :=
  c = ' ' || c = '\t'

/-- Whether the character breaks a line of a stream. -/
def isBreak (c : Char) : Bool :=
  c = '\n'

/-- Whether the character belongs to the punctuation of flow collections. -/
def isFlow (c : Char) : Bool :=
  c = ',' || c = '[' || c = ']' || c = '\x7b' || c = '\x7d'

/-- Whether the character is an ASCII letter, a digit, a low line or a dash. -/
def isNameChar (c : Char) : Bool :=
  c.isAlphanum || c = '_' || c = '-'

/-- Whether a line ends here. -/
def atLineEnd : List Char → Bool
  | [] => true
  | c :: _ => isBreak c

/-- Whether a blank follows or the line ends here. -/
def atBlankOrEnd : List Char → Bool
  | [] => true
  | c :: _ => isBlank c || isBreak c

/-- Whether a character of the given kind follows. -/
def startsWith (kind : Char → Bool) : List Char → Bool
  | [] => false
  | c :: _ => kind c

/-- Whether three times the given character follow and then a blank or the end of the line. -/
def atMarker (c : Char) (text : List Char) : Bool :=
  [c, c, c].isPrefixOf text && atBlankOrEnd (text.drop 3)

/-- Whether a text that starts a line starts with a document marker. -/
def atDocumentMarker (text : List Char) : Bool :=
  atMarker '-' text || atMarker '.' text

/-- Whether the rest of a line holds only blanks and perhaps a comment behind them. -/
def restIsBlank (text : List Char) : Bool :=
  match text.dropWhile isBlank with
  | [] => true
  | c :: _ => isBreak c || c = '#'

namespace Cursor

/-- The characters of a stream. A carriage return, a line feed and the two in this order break a
line alike, and a null character ends the stream. -/
def streamText : List Char → List Char
  | [] => []
  | '\x00' :: _ => []
  | '\r' :: '\n' :: rest => '\n' :: streamText rest
  | '\r' :: rest => '\n' :: streamText rest
  | c :: rest => c :: streamText rest

/-- The start of a stream. -/
def ofText (text : List Char) : Cursor :=
  ⟨streamText text, ⟨1, 0, 0⟩, true⟩

/-- Reads `count` blanks. -/
def blanks (cursor : Cursor) (count : Nat) : Cursor :=
  { cursor with rest := cursor.rest.drop count, mark := cursor.mark.right count }

/-- Reads `count` characters that are not blanks. -/
def skip (cursor : Cursor) (count : Nat) : Cursor :=
  { rest := cursor.rest.drop count
    mark := cursor.mark.right count
    fresh := cursor.fresh && count = 0 }

/-- Reads the characters of the given kind, none of them a blank. -/
def skipWhile (cursor : Cursor) (kind : Char → Bool) : Cursor :=
  cursor.skip (cursor.rest.takeWhile kind).length

/-- Reads the line break that follows, if one does. -/
def lineBreak (cursor : Cursor) : Cursor :=
  match cursor.rest with
  | '\n' :: rest => ⟨rest, cursor.mark.down, true⟩
  | _ => cursor

end Cursor

end TemplateHover.Yaml
