import TemplateHover.Yaml.Cursor

namespace TemplateHover.Yaml

/-- The value of a scalar on its way: the text read so far, the blanks behind it, whether its line
was broken, and how many breaks followed that one. The last character comes first. -/
structure Fold where
  text : List Char
  blanks : List Char
  broken : Bool
  breaks : Nat

namespace Fold

/-- The value of a scalar before its first character. -/
def empty : Fold :=
  ⟨[], [], false, 0⟩

/-- Adds a character. -/
def push (fold : Fold) (c : Char) : Fold :=
  { fold with text := c :: fold.text }

/-- Remembers a blank that belongs to the value if more text follows on the line. -/
def blank (fold : Fold) (c : Char) : Fold :=
  { fold with blanks := c :: fold.blanks }

/-- Remembers a line break. The blanks before it are dropped, and the breaks of empty lines are
counted apart from the first one. -/
def lineBreak (fold : Fold) (leading : Bool) : Fold :=
  if leading then { fold with breaks := fold.breaks + 1 }
  else { fold with blanks := [], broken := true }

/-- Joins what follows to the text: a single break becomes a space, further ones remain. -/
def join (fold : Fold) (leading : Bool) : Fold :=
  if leading then
    let gap := if fold.broken && fold.breaks = 0 then [' '] else List.replicate fold.breaks '\n'
    ⟨gap ++ fold.text, fold.blanks, false, 0⟩
  else
    ⟨fold.blanks ++ fold.text, [], fold.broken, fold.breaks⟩

/-- The value read so far. -/
def value (fold : Fold) : String :=
  String.ofList fold.text.reverse

end Fold

/-- The value of a scalar and the place behind it. -/
structure ScalarText where
  value : String
  cursor : Cursor

end TemplateHover.Yaml
