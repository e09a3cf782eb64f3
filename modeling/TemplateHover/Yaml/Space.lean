import TemplateHover.Yaml.Cursor
import TemplateHover.Yaml.Fault

namespace TemplateHover.Yaml

/-- What lies between a token and the end of its line or the next token. -/
structure LineRest where
  cursor : Cursor
  tabs : Bool
  spaces : Bool

/-- Reads blanks and a comment behind a token. The comment needs a blank before it. -/
def Cursor.skipLineRest (cursor : Cursor) : Except Fault LineRest :=
  let blanks := cursor.rest.takeWhile isBlank
  let behind := cursor.blanks blanks.length
  if startsWith (· = '#') behind.rest then
    if blanks.isEmpty then .error .gluedComment
    else .ok ⟨behind.skipWhile fun c => !isBreak c, blanks.contains '\t', blanks.contains ' '⟩
  else
    .ok ⟨behind, blanks.contains '\t', blanks.contains ' '⟩

/-- Reads the blanks, comments and line breaks before a token. Columns below `tabLimit` have to be
indented without tabs, unless the line holds nothing else. The result tells whether a line was
broken. -/
def skipSpaceFrom (tabLimit : Int) :
    List Char → Mark → (fresh broken comment : Bool) → Except Fault (Cursor × Bool)
  | [], mark, fresh, broken, _ => .ok (⟨[], mark, fresh⟩, broken)
  | c :: rest, mark, fresh, broken, comment =>
    if isBreak c then skipSpaceFrom tabLimit rest mark.down true true false
    else if comment || c = '#' then
      skipSpaceFrom tabLimit rest (mark.right 1) false broken true
    else if c = '\t' && fresh && decide ((mark.column : Int) < tabLimit) && !restIsBlank rest then
      .error .tabIndentation
    else if isBlank c then skipSpaceFrom tabLimit rest (mark.right 1) fresh broken false
    else .ok (⟨c :: rest, mark, fresh⟩, broken)

/-- Reads the space before a token. -/
def Cursor.skipSpace (cursor : Cursor) (tabLimit : Int) : Except Fault (Cursor × Bool) :=
  skipSpaceFrom tabLimit cursor.rest cursor.mark cursor.fresh false false

/-- Reads the spaces, comments and line breaks behind a question mark, where no tab may stand. The
results tell whether anything but a comment was read and whether a line was broken. -/
def skipKeySpaceFrom :
    List Char → Mark → (fresh spaced broken comment : Bool) → Cursor × Bool × Bool
  | [], mark, fresh, spaced, broken, _ => (⟨[], mark, fresh⟩, spaced, broken)
  | c :: rest, mark, fresh, spaced, broken, comment =>
    if isBreak c then skipKeySpaceFrom rest mark.down true true true false
    else if comment || c = '#' then
      skipKeySpaceFrom rest (mark.right 1) false spaced broken true
    else if c = ' ' then skipKeySpaceFrom rest (mark.right 1) fresh true broken false
    else (⟨c :: rest, mark, fresh⟩, spaced, broken)

/-- Reads the space behind a question mark and tells whether a line was broken. -/
def Cursor.skipKeySpace (cursor : Cursor) : Except Fault (Cursor × Bool) :=
  let (behind, spaced, broken) :=
    skipKeySpaceFrom cursor.rest cursor.mark cursor.fresh false false false
  if !spaced || startsWith (· = '\t') behind.rest then .error .missingSpace
  else .ok (behind, broken)

end TemplateHover.Yaml
