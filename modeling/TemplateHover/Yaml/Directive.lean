import TemplateHover.Yaml.Tag
import TemplateHover.Yaml.Token

namespace TemplateHover.Yaml

/-- Reads blanks. -/
def Cursor.skipBlanks (cursor : Cursor) : Cursor :=
  cursor.blanks (cursor.rest.takeWhile isBlank).length

/-- Reads a number of at most nine digits. -/
def Cursor.versionNumber (cursor : Cursor) : Except Fault Cursor :=
  let digits := (cursor.rest.takeWhile Char.isDigit).length
  if digits = 0 || 9 < digits then .error .badDirective else .ok (cursor.skip digits)

/-- Reads the version behind the name of a version directive. -/
def Cursor.version (cursor : Cursor) : Except Fault Cursor := do
  let major ← cursor.skipBlanks.versionNumber
  if !startsWith (· = '.') major.rest then .error .badDirective
  (major.skip 1).versionNumber

/-- Reads the handle and the address behind the name of a tag directive. -/
def Cursor.tagDeclaration (cursor : Cursor) : Except Fault (String × Cursor) := do
  let start := cursor.skipBlanks
  let handle := handleAt start.rest
  if handle.isEmpty || (!isNamedHandle handle && handle != ['!']) then .error .badDirective
  let address := (start.skip handle.length).skipBlanks
  let behind ←
    match address.rest with
    | '!' :: _ => (address.skip 1).skipUri isUriChar
    | c :: _ => if isTagChar c then address.skipUri isUriChar else .error .badDirective
    | [] => .error .badDirective
  if atBlankOrEnd behind.rest then .ok (String.ofList handle, behind) else .error .badDirective

/-- Reads the directive that starts here and its line. An unknown directive declares the empty
handle. -/
def Cursor.directive (cursor : Cursor) : Except Fault (TokenKind × Cursor) := do
  let start := cursor.skip 1
  let name := start.rest.takeWhile isNameChar
  let behind := start.skip name.length
  if name.isEmpty || !atBlankOrEnd behind.rest then .error .badDirective
  let (kind, behind) ←
    if name = ['Y', 'A', 'M', 'L'] then do
      pure (.versionDirective, ← behind.version)
    else if name = ['T', 'A', 'G'] then do
      let (handle, behind) ← behind.tagDeclaration
      pure (.tagDirective handle, behind)
    else pure (.tagDirective "", behind.skipWhile fun c => !isBreak c)
  let line ← behind.skipLineRest
  if atLineEnd line.cursor.rest then .ok (kind, line.cursor.lineBreak) else .error .badDirective

end TemplateHover.Yaml
