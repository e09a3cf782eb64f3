import TemplateHover.Text.Blank
import TemplateHover.Text.Pattern

namespace TemplateHover

/-- Where a word stands relative to the actions of its line, which are written between double
braces. Each test looks at the whole line, so one word can satisfy several of them. -/
inductive Context where
  /-- Behind the point of a field access in an action. -/
  | value
  /-- A word of its own in an action. -/
  | function
  /-- Behind the start of the line or a closing brace, with no opening brace in between. -/
  | outsideAction
deriving DecidableEq, Repr

namespace Context

/-- The contexts in the order in which they are tried for a word. -/
def order : List Context :=
  [.value, .function, .outsideAction]

/-- Any character other than a closing brace. -/
def notClosing (c : Char) : Bool :=
  c != '\x7d'

/-- Any character other than an opening brace. -/
def notOpening (c : Char) : Bool :=
  c != '\x7b'

/-- A point or white space, which may follow a field. -/
def endsField (c : Char) : Bool :=
  c == '.' || isBlank c

/-- White space, an opening parenthesis or a pipe, which may come before a function. -/
def opensCall (c : Char) : Bool :=
  c == '(' || c == '|' || isBlank c

/-- The field access of a word in an action. -/
def valuePieces (word : List Char) : List Piece :=
  [.literal ['\x7b', '\x7b'], .many notClosing, .literal ['.'], .literal word, .optional endsField,
    .many notOpening, .literal ['\x7d', '\x7d']]

/-- A word in an action with white space behind it. -/
def functionPieces (word : List Char) : List Piece :=
  [.literal ['\x7b', '\x7b'], .many notClosing, .optional opensCall, .literal word, .one isBlank,
    .many notOpening, .literal ['\x7d', '\x7d']]

/-- A word with no opening brace before it. -/
def outsidePieces (word : List Char) : List Piece :=
  [.many notOpening, .literal word]

/-- Whether a word occurs in this context somewhere on a line. The word is taken literally, and it
may be part of a longer one. A matcher that first builds the pattern can give up on a word that is
too long for it. That limit is left out: every word has its pattern, and the test always gives an
answer. -/
def holds (context : Context) (line word : String) : Bool :=
  match context with
  | .value => matchesAnywhere (valuePieces word.toList) line.toList
  | .function => matchesAnywhere (functionPieces word.toList) line.toList
  | .outsideAction =>
    matchesAtStart (outsidePieces word.toList) line.toList ||
      matchesAnywhere (.literal ['\x7d'] :: outsidePieces word.toList) line.toList

end Context

end TemplateHover
