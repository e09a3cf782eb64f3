import TemplateHover.Yaml.Fault
import TemplateHover.Yaml.Scalar.Fold

namespace TemplateHover.Yaml

/-- Where the scan of a plain scalar stands. -/
inductive PlainMode where
  /-- Before the first character. -/
  | start
  /-- In a run of text. -/
  | text
  /-- Behind a run of text, before the next one. -/
  | space
  /-- Behind a tab on a line that holds no text. -/
  | tabbed
deriving DecidableEq

/-- Whether a plain scalar ends before a character: a colon that introduces a value or, in a flow
collection, its punctuation. -/
def endsPlain (flow : Bool) (c : Char) (rest : List Char) : Bool :=
  (c = ':' && (atBlankOrEnd rest || flow && startsWith isFlow rest)) || (flow && isFlow c)

/-- Whether a run of text cannot start here although the line goes on. -/
def endsPlainRun (flow fresh : Bool) (mark : Mark) (c : Char) (rest : List Char) : Bool :=
  c = '#' || (fresh && mark.column = 0 && atDocumentMarker (c :: rest)) || endsPlain flow c rest

/-- Reads a plain scalar from the given characters on. Further lines have to be indented up to the
`margin`, except in a flow collection, where a run of text must not start with a dash in front of
punctuation. -/
def plainFrom (flow : Bool) (margin : Int) :
    List Char → Mark → (fresh : Bool) → PlainMode → Fold → Except Fault ScalarText
  | [], mark, fresh, _, fold => .ok ⟨fold.value, [], mark, fresh⟩
  | c :: rest, mark, fresh, mode, fold =>
    if isBreak c then
      plainFrom flow margin rest mark.down true .space (fold.lineBreak fresh)
    else if mode = .tabbed then
      plainFrom flow margin rest (mark.right 1) (fresh && isBlank c) .tabbed fold
    else if isBlank c then
      if !fresh then
        plainFrom flow margin rest (mark.right 1) false .space (fold.blank c)
      else if c = '\t' && decide ((mark.column : Int) < margin) then
        if restIsBlank rest then
          plainFrom flow margin rest (mark.right 1) true .tabbed fold
        else .error .tabIndentation
      else
        plainFrom flow margin rest (mark.right 1) true .space fold
    else if mode = .text then
      if endsPlain flow c rest then .ok ⟨fold.value, c :: rest, mark, fresh⟩
      else plainFrom flow margin rest (mark.right 1) false .text (fold.push c)
    else if mode = .space && !flow && decide ((mark.column : Int) < margin) then
      .ok ⟨fold.value, c :: rest, mark, fresh⟩
    else if flow && c = '-' && startsWith isFlow rest then
      .error .misplacedIndicator
    else if endsPlainRun flow fresh mark c rest then
      .ok ⟨fold.value, c :: rest, mark, fresh⟩
    else
      plainFrom flow margin rest (mark.right 1) false .text ((fold.join fresh).push c)

/-- Reads the plain scalar that starts here. -/
def Cursor.plainScalar (cursor : Cursor) (flow : Bool) (margin : Int) :
    Except Fault ScalarText :=
  plainFrom flow margin cursor.rest cursor.mark cursor.fresh .start .empty

end TemplateHover.Yaml
