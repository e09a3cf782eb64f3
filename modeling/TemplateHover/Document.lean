import TemplateHover.Position
import TemplateHover.Text.Line
import TemplateHover.Text.Utf16
import TemplateHover.Text.Word

namespace TemplateHover

/-- The full text of a document and the version its editor gave it. -/
structure Document where
  text : String
  version : Int32
deriving DecidableEq

namespace Document

/-- The line with the given number, without its end. -/
def line (document : Document) (number : UInt32) : Option String :=
  (lines document.text.toList)[number.toNat]?.map String.ofList

/-- The range of a word on a line, if both its columns exist. -/
def spanRange? (number : UInt32) (line : List Char) (span : Span) : Option Range :=
  match column? line span.start, column? line span.stop with
  | some start, some stop => some ⟨⟨number, start⟩, ⟨number, stop⟩⟩
  | _, _ => none

/-- The range of a word if the column lies on it. Both ends of the word count. -/
def rangeHolding? (position : Position) (line : List Char) (span : Span) : Option Range :=
  (spanRange? position.line line span).filter fun range =>
    range.start.character ≤ position.character && position.character ≤ range.stop.character

/-- The range of the word at a position. A cursor just behind the last character of a word is
still on it, and of two words that meet at the cursor the first one wins. -/
def wordRangeAt (document : Document) (position : Position) : Option Range :=
  match document.line position.line with
  | none => none
  | some line => (words line.toList).findSome? (rangeHolding? position line.toList)

/-- The text of a range that stays on one line. A column inside a character moves to its end. -/
def textIn (document : Document) (range : Range) : Option String :=
  if range.start.line = range.stop.line then
    match document.line range.start.line with
    | none => none
    | some line =>
      match boundary? line.toList range.start.character, boundary? line.toList range.stop.character with
      | some start, some stop =>
        if start ≤ stop then some (String.ofList ((line.toList.drop start).take (stop - start)))
        else none
      | _, _ => none
  else
    none

/-- The word at a position together with its range. -/
def wordAt (document : Document) (position : Position) : Option (String × Range) :=
  match document.wordRangeAt position with
  | none => none
  | some range =>
    match document.textIn range with
    | none => none
    | some word => if word.isEmpty then none else some (word, range)

end Document

end TemplateHover
