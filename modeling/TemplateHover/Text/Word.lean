import TemplateHover.Text.Blank
import TemplateHover.Text.Digit
import TemplateHover.Text.WordChar

namespace TemplateHover

/-- The punctuation that separates words. The low line is the only ASCII punctuation missing. -/
def punctuation : List Char :=
  ['\x60', '~', '!', '@', '#', '$', '%', '^', '&', '*', '(', ')', '-', '=', '+', '[', '\x7b', ']',
    '\x7d', '\\', '|', ';', ':', '\x27', '\x22', ',', '.', '<', '>', '/', '?']

/-- Whether a character separates words. -/
def isSeparator (c : Char) : Bool :=
  punctuation.contains c || isBlank c

/-- The length of the number at the front of a text: a sign, digits, a point, a digit and word
characters, of which the sign and the first digits may be missing. -/
def numberLength? (text : List Char) : Option Nat :=
  let sign := if text.head? = some '-' then 1 else 0
  let digits := ((text.drop sign).takeWhile isDigit).length
  match text.drop (sign + digits) with
  | '.' :: digit :: rest =>
    if isDigit digit then some (sign + digits + 2 + (rest.takeWhile isWordChar).length) else none
  | _ => none

/-- The length of the word at the front of a text: that of a number if there is one, and otherwise
of the longest run without separators. It is zero when no word starts here. -/
def wordLength (text : List Char) : Nat :=
  match numberLength? text with
  | some length => length
  | none => (text.takeWhile fun c => !isSeparator c).length

/-- The characters from the index `start` up to the index `stop`, which is not included. -/
structure Span where
  start : Nat
  stop : Nat
deriving DecidableEq, Repr

/-- The words of a text whose first character has the given index. The search goes on behind a
word, and one character further where no word starts. -/
def wordsFrom (index : Nat) (text : List Char) : List Span :=
  match text with
  | [] => []
  | c :: rest =>
    match wordLength (c :: rest) with
    | 0 => wordsFrom (index + 1) rest
    | length + 1 =>
      ⟨index, index + (length + 1)⟩ :: wordsFrom (index + (length + 1)) (rest.drop length)
termination_by text.length

/-- The words of a line, from left to right. -/
def words (line : List Char) : List Span :=
  wordsFrom 0 line

end TemplateHover
