import TemplateHover.Yaml.Directive
import TemplateHover.Yaml.Scalar.Block
import TemplateHover.Yaml.Scalar.Plain

namespace TemplateHover.Yaml

/-- A place where a key may have started without a question mark: its mark and the number of tokens
before it. A required key has to be followed by a colon. -/
structure PossibleKey where
  mark : Mark
  token : Nat
  required : Bool
deriving DecidableEq

/-- An enclosing level of indentation, by the indentation outside of it. A level that is no block of
its own only keeps the lines of a value to the right of its key. -/
structure Level where
  outside : Int
  isBlock : Bool
deriving DecidableEq

/-- The state of a scan. -/
structure Scanner where
  cursor : Cursor
  /-- The tokens found so far. -/
  tokens : List Token
  /-- The indentation of the innermost level, which is `-1` outside of all. -/
  indent : Int
  /-- The enclosing levels, innermost first. -/
  levels : List Level
  /-- Whether a key may start here without a question mark. -/
  keyAllowed : Bool
  /-- The key that may have started in the innermost collection. -/
  key : Option PossibleKey
  /-- The keys that may have started around each enclosing flow collection, innermost first. -/
  outerKeys : List (Option PossibleKey)
  /-- The index at which a colon needs no blank behind it, since it follows a closed node. -/
  adjacent : Nat
  /-- Whether a flow mapping was opened since the last pair without braces. -/
  inFlowMapping : Bool
  /-- Whether the last colon belongs to a pair without braces that is still open. -/
  inPair : Bool

namespace Scanner

/-- The scan before the first character. -/
def start (text : List Char) : Scanner where
  cursor := .ofText text
  tokens := [⟨⟨1, 0, 0⟩, .streamStart⟩]
  indent := -1
  levels := []
  keyAllowed := true
  key := none
  outerKeys := []
  adjacent := 0
  inFlowMapping := false
  inPair := false

/-- The place of the scan. -/
def mark (scanner : Scanner) : Mark :=
  scanner.cursor.mark

/-- Whether the scan is inside a flow collection. -/
def inFlow (scanner : Scanner) : Bool :=
  !scanner.outerKeys.isEmpty

/-- Whether the innermost level is a block. -/
def inBlockLevel (scanner : Scanner) : Bool :=
  match scanner.levels with
  | [] => false
  | level :: _ => level.isBlock

/-- Adds a token. -/
def emit (scanner : Scanner) (mark : Mark) (kind : TokenKind) : Scanner :=
  { scanner with tokens := scanner.tokens ++ [⟨mark, kind⟩] }

/-- Inserts a token behind the first `position` ones. -/
def emitAt (scanner : Scanner) (position : Nat) (mark : Mark) (kind : TokenKind) : Scanner :=
  { scanner with
    tokens := scanner.tokens.take position ++ ⟨mark, kind⟩ :: scanner.tokens.drop position }

/-- Gives up the key that may have started, unless a colon had to follow. -/
def dropKey (scanner : Scanner) : Except Fault Scanner :=
  match scanner.key with
  | some key => if key.required then .error .missingColon else .ok { scanner with key := none }
  | none => .ok scanner

/-- Remembers that a key may start here. It is required where the block's keys stand. -/
def saveKey (scanner : Scanner) : Scanner :=
  if scanner.keyAllowed then
    let required :=
      !scanner.inFlow && scanner.indent = (scanner.mark.column : Int) && scanner.inBlockLevel
    { scanner with key := some ⟨scanner.mark, scanner.tokens.length, required⟩ }
  else scanner

/-- Gives up a key of a block whose colon is not on its line or more than 1024 characters away. -/
def dropStaleKey (scanner : Scanner) : Except Fault Scanner :=
  match scanner.key with
  | some key =>
    if !scanner.inFlow && (decide (key.mark.line < scanner.mark.line) ||
        decide (key.mark.index + 1024 < scanner.mark.index)) then
      scanner.dropKey
    else .ok scanner
  | none => .ok scanner

/-- The levels and the indentation that remain outside of the levels right of a column, with the
number of blocks that end. -/
def closeLevels (column : Int) : List Level → (indent : Int) → (ended : Nat) → List Level × Int × Nat
  | [], indent, ended => ([], indent, ended)
  | level :: outer, indent, ended =>
    if column < indent then
      closeLevels column outer level.outside (if level.isBlock then ended + 1 else ended)
    else (level :: outer, indent, ended)

/-- Closes the blocks that are indented further than a column. A flow collection keeps them. -/
def unindent (scanner : Scanner) (column : Int) : Scanner :=
  if scanner.inFlow then scanner
  else
    let (levels, indent, ended) := closeLevels column scanner.levels scanner.indent 0
    { scanner with
      levels := levels
      indent := indent
      tokens := scanner.tokens ++ List.replicate ended ⟨scanner.mark, .blockEnd⟩ }

/-- Leaves the innermost level if it is no block. -/
def leaveValueLevel (scanner : Scanner) : Scanner :=
  match scanner.levels with
  | ⟨outside, false⟩ :: levels => { scanner with levels := levels, indent := outside }
  | _ => scanner

/-- The levels and the indentation outside of the innermost levels that are no blocks. -/
def outerBlock : List Level → (indent : Int) → List Level × Int
  | ⟨outside, false⟩ :: levels, _ => outerBlock levels outside
  | levels, indent => (levels, indent)

/-- Leaves all innermost levels that are no blocks. -/
def leaveValueLevels (scanner : Scanner) : Scanner :=
  let (levels, indent) := outerBlock scanner.levels scanner.indent
  { scanner with levels := levels, indent := indent }

/-- Opens a block at a column that is indented further than the innermost one. Its token goes behind
the first `position` tokens. -/
def openBlock (scanner : Scanner) (column position : Nat) (mark : Mark) (kind : TokenKind) :
    Scanner :=
  if scanner.inFlow then scanner
  else
    let scanner := if scanner.indent ≤ (column : Int) then scanner.leaveValueLevel else scanner
    if scanner.indent < (column : Int) then
      { scanner.emitAt position mark kind with
        levels := ⟨scanner.indent, true⟩ :: scanner.levels
        indent := column }
    else scanner

/-- Inside a block, keeps what follows at least one column to the right. -/
def enterValueLevel (scanner : Scanner) : Scanner :=
  if !scanner.inFlow && scanner.inBlockLevel then
    { scanner with
      levels := ⟨scanner.indent, false⟩ :: scanner.levels
      indent := scanner.indent + 1 }
  else scanner

/-- Moves the scan to a place. -/
def moveTo (scanner : Scanner) (cursor : Cursor) : Scanner :=
  { scanner with cursor := cursor }

/-- Says whether a key may start at the next token. -/
def allowKey (scanner : Scanner) (allowed : Bool) : Scanner :=
  { scanner with keyAllowed := allowed }

/-- Ends the pair without braces that is open. -/
def closePair (scanner : Scanner) : Scanner :=
  if scanner.inPair then
    { scanner.emit scanner.mark .flowMappingEnd with
      inPair := false
      inFlowMapping := false }
  else scanner

/-- The end of the stream, which closes all blocks. It lies on a line of its own. -/
def streamEnd (scanner : Scanner) : Except Fault Scanner := do
  let mark := scanner.mark
  let scanner :=
    if mark.column = 0 then scanner
    else scanner.moveTo { scanner.cursor with mark := ⟨mark.line + 1, 0, mark.index⟩ }
  if (scanner.key :: scanner.outerKeys).any fun key => key.any (·.required) then
    .error .missingColon
  let scanner := scanner.unindent (-1)
  .ok ({ scanner with key := none }.allowKey false |>.emit scanner.mark .streamEnd)

/-- A directive. -/
def directive (scanner : Scanner) : Except Fault Scanner := do
  let scanner ← (scanner.unindent (-1)).dropKey
  let (kind, behind) ← scanner.cursor.directive
  .ok ((scanner.emit scanner.mark kind).allowKey false |>.moveTo behind)

/-- The marker of a document's start or end. -/
def documentMarker (scanner : Scanner) (kind : TokenKind) : Except Fault Scanner := do
  let scanner ← (scanner.unindent (-1)).dropKey
  .ok ((scanner.emit scanner.mark kind).allowKey false |>.moveTo (scanner.cursor.skip 3))

/-- The marker of a document's end, with nothing behind it on its line. -/
def documentEnd (scanner : Scanner) : Except Fault Scanner := do
  let scanner ← scanner.documentMarker .documentEnd
  let behind ← scanner.cursor.skipLineRest
  if atLineEnd behind.cursor.rest then .ok (scanner.moveTo behind.cursor)
  else .error .trailingText

/-- The start of a flow collection, which may be a key. -/
def flowStart (scanner : Scanner) (kind : TokenKind) : Except Fault Scanner := do
  let mark := scanner.mark
  let scanner := scanner.saveKey.enterValueLevel
  if 255 ≤ scanner.outerKeys.length then .error .depth
  let behind ← (scanner.cursor.skip 1).skipLineRest
  let scanner :=
    { scanner with
      outerKeys := scanner.key :: scanner.outerKeys
      key := none
      inFlowMapping := scanner.inFlowMapping || decide (kind = TokenKind.flowMappingStart) }
  .ok ((scanner.emit mark kind).allowKey true |>.moveTo behind.cursor)

/-- The end of a flow collection. A colon may directly follow it inside another one. -/
def flowEnd (scanner : Scanner) (kind : TokenKind) : Except Fault Scanner := do
  let mark := scanner.mark
  let scanner ← scanner.dropKey
  let scanner :=
    match scanner.outerKeys with
    | key :: keys => { scanner with key := key, outerKeys := keys }
    | [] => scanner
  let scanner := if kind = .flowSequenceEnd then scanner.closePair else scanner
  let behind ← (scanner.cursor.skip 1).skipLineRest
  let scanner :=
    if scanner.inFlow then { scanner with adjacent := behind.cursor.mark.index } else scanner
  .ok ((scanner.emit mark kind).allowKey false |>.moveTo behind.cursor)

/-- The comma between the entries of a flow collection. -/
def flowEntry (scanner : Scanner) : Except Fault Scanner := do
  let mark := scanner.mark
  let scanner ← scanner.dropKey
  let scanner := scanner.closePair
  let behind ← (scanner.cursor.skip 1).skipLineRest
  .ok ((scanner.emit mark .flowEntry).allowKey true |>.moveTo behind.cursor)

/-- Whether the last token is an anchor or a tag at the start of a line. -/
def behindProperties (scanner : Scanner) : Bool :=
  match scanner.tokens.getLast? with
  | some ⟨mark, .anchor _⟩ => mark.column = 0
  | some ⟨mark, .tag _⟩ => mark.column = 0
  | _ => false

/-- The dash before an entry of a block sequence. -/
def blockEntry (scanner : Scanner) : Except Fault Scanner := do
  let mark := scanner.mark
  if scanner.inFlow || !scanner.keyAllowed then .error .misplacedIndicator
  if mark.column = 0 && scanner.behindProperties && decide (-1 < scanner.indent) then
    .error .indentation
  let scanner := scanner.openBlock mark.column scanner.tokens.length mark .blockSequenceStart
  let behind ← (scanner.cursor.skip 1).skipLineRest
  let text := behind.cursor.rest
  if behind.tabs && startsWith (· = '-') text && atBlankOrEnd text.tail then .error .missingSpace
  let scanner := if startsWith (fun c => isBreak c || isFlow c) text then
    scanner.enterValueLevel else scanner
  let scanner ← scanner.dropKey
  .ok ((scanner.emit behind.cursor.mark .blockEntry).allowKey true |>.moveTo behind.cursor)

/-- The question mark before a key. -/
def explicitKey (scanner : Scanner) : Except Fault Scanner := do
  let mark := scanner.mark
  let block := !scanner.inFlow
  if block && !scanner.keyAllowed then .error .misplacedIndicator
  let scanner :=
    if block then scanner.openBlock mark.column scanner.tokens.length mark .blockMappingStart
    else { scanner with inFlowMapping := true }
  let scanner ← scanner.dropKey
  let (behind, _) ← (scanner.cursor.skip 1).skipKeySpace
  .ok ((scanner.emit mark .key).allowKey block |>.moveTo behind)

/-- Reads the blanks behind a colon that starts with a tab. Text may follow them only behind a
space. -/
def skipValueTabs (cursor : Cursor) : Except Fault Cursor :=
  if startsWith (· = '\t') cursor.rest then
    match cursor.skipLineRest with
    | .error fault => .error fault
    | .ok behind =>
      if !behind.spaces && startsWith isNameChar behind.cursor.rest then .error .missingSpace
      else .ok behind.cursor
  else .ok cursor

/-- The colon before a value. The key before it becomes a key of the innermost mapping, which is
opened if there is none. In a flow sequence the two are a pair without braces. -/
def mappingValue (scanner : Scanner) : Except Fault Scanner := do
  let mark := scanner.mark
  let pair := scanner.inFlow && !scanner.inFlowMapping
  let scanner := { scanner with inPair := pair }
  let behind ← skipValueTabs (scanner.cursor.skip 1)
  match scanner.key with
  | some key =>
    if pair && decide (key.mark.line < mark.line) then .error .misplacedIndicator
    let scanner := scanner.emitAt key.token key.mark .key
    let scanner :=
      if pair then scanner.emitAt key.token behind.mark .flowMappingStart else scanner
    let scanner := scanner.openBlock key.mark.column key.token mark .blockMappingStart
    let scanner := { scanner.enterValueLevel with key := none }
    .ok ((scanner.emit mark .value).allowKey false |>.moveTo behind)
  | none =>
    let scanner := if pair then scanner.emit behind.mark .flowMappingStart else scanner
    if !scanner.inFlow && !scanner.keyAllowed then .error .misplacedIndicator
    let scanner := scanner.openBlock mark.column scanner.tokens.length mark .blockMappingStart
    let scanner := scanner.enterValueLevel
    .ok ((scanner.emit mark .value).allowKey (!scanner.inFlow) |>.moveTo behind)

/-- Whether a character may stand in the name of an anchor. -/
def isAnchorChar (c : Char) : Bool :=
  !isBlank c && !isBreak c && !isFlow c && c != '\uFEFF'

/-- An anchor or an alias, which may be a key or start one. -/
def anchor (scanner : Scanner) (kind : String → TokenKind) : Except Fault Scanner :=
  let mark := scanner.mark
  let scanner := scanner.saveKey
  let start := scanner.cursor.skip 1
  let name := start.rest.takeWhile isAnchorChar
  if name.isEmpty then .error .namelessAnchor
  else
    .ok ((scanner.emit mark (kind (String.ofList name))).allowKey false
      |>.moveTo (start.skip name.length))

/-- A tag, which may start a key. -/
def tag (scanner : Scanner) : Except Fault Scanner := do
  let mark := scanner.mark
  let scanner := scanner.saveKey
  let (handle, behind) ← scanner.cursor.tag scanner.inFlow
  .ok ((scanner.emit mark (.tag handle)).allowKey false |>.moveTo behind)

/-- A block scalar. A key may start on the line behind it. -/
def blockScalar (scanner : Scanner) (literal : Bool) : Except Fault Scanner := do
  let scanner := scanner.saveKey.leaveValueLevels
  let scalar ← scanner.cursor.blockScalar literal scanner.indent
  let style := if literal then .literal else .folded
  .ok ((scanner.emit scalar.mark (.scalar style scalar.value)).allowKey true
    |>.moveTo scalar.cursor)

/-- A quoted scalar and the space behind it, where a colon may directly follow in a flow
collection. -/
def quotedScalar (scanner : Scanner) (single : Bool) : Except Fault Scanner := do
  let mark := scanner.mark
  let scanner := scanner.saveKey
  let scalar ← scanner.cursor.quotedScalar single scanner.inFlow scanner.indent
  let (behind, broken) ← scalar.cursor.skipSpace scanner.indent
  let style := if single then .singleQuoted else .doubleQuoted
  let scanner := { scanner with adjacent := behind.mark.index }
  .ok ((scanner.emit mark (.scalar style scalar.value)).allowKey (broken && !scanner.inFlow)
    |>.moveTo behind)

/-- A plain scalar. A key may start behind it if it ended with a line. -/
def plainScalar (scanner : Scanner) : Except Fault Scanner := do
  let mark := scanner.mark
  let scanner := scanner.saveKey.leaveValueLevels
  if scanner.inFlow && decide ((mark.column : Int) < scanner.indent + 1) then .error .indentation
  let scalar ← scanner.cursor.plainScalar scanner.inFlow (scanner.indent + 1)
  .ok ((scanner.emit mark (.scalar .plain scalar.value)).allowKey scalar.cursor.fresh
    |>.moveTo scalar.cursor)

/-- Whether a colon introduces a value here. -/
def colonIsValue (scanner : Scanner) (rest : List Char) : Bool :=
  atBlankOrEnd rest ||
    (scanner.inFlow && (startsWith isFlow rest || scanner.mark.index = scanner.adjacent))

/-- The token that starts with the given character, which is not the first on its line or starts no
marker there. -/
def content (scanner : Scanner) (c : Char) (rest : List Char) : Except Fault Scanner :=
  if c = '[' then scanner.flowStart .flowSequenceStart
  else if c = '\x7b' then scanner.flowStart .flowMappingStart
  else if c = ']' then scanner.flowEnd .flowSequenceEnd
  else if c = '\x7d' then scanner.flowEnd .flowMappingEnd
  else if c = ',' then scanner.flowEntry
  else if c = '-' && atBlankOrEnd rest then scanner.blockEntry
  else if c = '?' && atBlankOrEnd rest then scanner.explicitKey
  else if c = ':' && scanner.colonIsValue rest then scanner.mappingValue
  else if c = '*' then scanner.anchor .alias
  else if c = '&' then scanner.anchor .anchor
  else if c = '!' then scanner.tag
  else if c = '|' && !scanner.inFlow then scanner.blockScalar true
  else if c = '>' && !scanner.inFlow then scanner.blockScalar false
  else if c = '\'' then scanner.quotedScalar true
  else if c = '"' then scanner.quotedScalar false
  else if c = '%' || c = '@' || c = '\x60' then .error .reservedCharacter
  else scanner.plainScalar

/-- Scans the next token behind any space, with the tokens that have to come before it. -/
def next (scanner : Scanner) : Except Fault Scanner := do
  let (cursor, broken) ← scanner.cursor.skipSpace scanner.indent
  let scanner := scanner.moveTo cursor |>.allowKey (scanner.keyAllowed || (broken && !scanner.inFlow))
  let scanner ← scanner.dropStaleKey
  let scanner := scanner.unindent cursor.mark.column
  match cursor.rest with
  | [] => scanner.streamEnd
  | c :: rest =>
    if cursor.mark.column = 0 && c = '%' then scanner.directive
    else if cursor.mark.column = 0 && atMarker '-' (c :: rest) then
      scanner.documentMarker .documentStart
    else if cursor.mark.column = 0 && atMarker '.' (c :: rest) then scanner.documentEnd
    else if (cursor.mark.column : Int) < scanner.indent then .error .indentation
    else scanner.content c rest

/-- Whether the end of the stream has been reached. -/
def ended (scanner : Scanner) : Bool :=
  scanner.tokens.getLast?.any (·.kind = .streamEnd)

/-- Scans up to the end of the stream, with at most the given number of tokens to come. -/
def run : (fuel : Nat) → Scanner → Except Fault Scanner
  | 0, scanner => .ok scanner
  | fuel + 1, scanner =>
    if scanner.ended then .ok scanner
    else
      match scanner.next with
      | .error fault => .error fault
      | .ok scanner => run fuel scanner

end Scanner

/-- The tokens of a stream. Each round reads a character or ends the stream, so as many rounds as
characters and one more suffice. -/
def scan (text : List Char) : Except Fault (List Token) :=
  match (Scanner.start text).run (text.length + 1) with
  | .error fault => .error fault
  | .ok scanner => .ok scanner.tokens

end TemplateHover.Yaml
