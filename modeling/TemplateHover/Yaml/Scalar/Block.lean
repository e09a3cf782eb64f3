import TemplateHover.Yaml.Scalar.Fold
import TemplateHover.Yaml.Space

namespace TemplateHover.Yaml

/-- What becomes of the line breaks at the end of a block scalar: one is kept, none or all. -/
inductive Chomping where
  | clip
  | strip
  | keep
deriving DecidableEq

/-- The indicators behind the start of a block scalar. The indentation is zero unless given. -/
structure BlockHeader where
  chomping : Chomping
  increment : Nat
  length : Nat

/-- The chomping that a character indicates. -/
def chomping? (c : Char) : Option Chomping :=
  if c = '+' then some .keep else if c = '-' then some .strip else none

/-- The indentation that a character indicates. A zero is none. -/
def increment? (c : Char) : Option Nat :=
  if c.isDigit then some (c.toNat - '0'.toNat) else none

/-- Reads the indicators of a block scalar in either order. -/
def blockHeader (text : List Char) : Except Fault BlockHeader :=
  let first := text.head?
  let second := text.tail.head?
  let header :=
    match first.bind chomping?, second.bind increment? with
    | some chomping, some increment => ⟨chomping, increment, 2⟩
    | some chomping, none => ⟨chomping, 0, 1⟩
    | none, _ =>
      match first.bind increment?, second.bind chomping? with
      | some increment, some chomping => ⟨chomping, increment, 2⟩
      | some increment, none => ⟨.clip, increment, 1⟩
      | none, _ => ⟨.clip, 0, 0⟩
  if (text.take header.length).contains '0' then .error .badBlockScalar else .ok header

/-- Reads the empty lines before a block scalar and the spaces before its text. The results are the
place behind them, the number of line breaks and the widest indentation. -/
def widestIndent : List Char → Mark → (fresh : Bool) → (breaks widest : Nat) → Cursor × Nat × Nat
  | [], mark, fresh, breaks, widest => (⟨[], mark, fresh⟩, breaks, max widest mark.column)
  | c :: rest, mark, fresh, breaks, widest =>
    if c = ' ' then widestIndent rest (mark.right 1) fresh breaks widest
    else if isBreak c then
      widestIndent rest mark.down true (breaks + 1) (max widest mark.column)
    else (⟨c :: rest, mark, fresh⟩, breaks, max widest mark.column)

/-- Reads empty lines and up to `indent` spaces before the text of a line. The results are the
place behind them and the number of line breaks. -/
def skipIndent (indent : Nat) : List Char → Mark → (fresh : Bool) → (breaks : Nat) → Cursor × Nat
  | [], mark, fresh, breaks => (⟨[], mark, fresh⟩, breaks)
  | c :: rest, mark, fresh, breaks =>
    if c = ' ' && decide (mark.column < indent) then
      skipIndent indent rest (mark.right 1) fresh breaks
    else if isBreak c then skipIndent indent rest mark.down true (breaks + 1)
    else (⟨c :: rest, mark, fresh⟩, breaks)

/-- The text of a block scalar on its way, the last character first. It knows whether the last line
was broken, how many empty lines followed, and whether the last line started with a blank. -/
structure BlockText where
  text : List Char
  broken : Bool
  breaks : Nat
  indented : Bool

/-- Joins a new line to the text. A folded scalar turns the break between two lines of text into a
space, or drops it before empty lines. -/
def BlockText.startLine (block : BlockText) (literal blank : Bool) : BlockText :=
  let empty := List.replicate block.breaks '\n'
  let gap :=
    if !literal && block.broken && !block.indented && !blank then
      if block.breaks = 0 then [' '] else empty
    else if block.broken then empty ++ ['\n']
    else empty
  ⟨gap ++ block.text, false, 0, blank⟩

/-- Reads the lines of a block scalar that are indented by `indent`, from the text of a line or from
the space before it. A scalar without indentation ends before the marker of a document's end. -/
def blockFrom (literal : Bool) (indent : Nat) :
    List Char → Mark → (fresh inText : Bool) → BlockText → BlockText × Cursor
  | [], mark, fresh, _, block => (block, ⟨[], mark, fresh⟩)
  | c :: rest, mark, fresh, inText, block =>
    if isBreak c then
      blockFrom literal indent rest mark.down true false
        (if inText then { block with broken := true } else { block with breaks := block.breaks + 1 })
    else if inText then
      blockFrom literal indent rest (mark.right 1) false true
        { block with text := c :: block.text }
    else if c = ' ' && decide (mark.column < indent) then
      blockFrom literal indent rest (mark.right 1) fresh false block
    else if mark.column = indent && !(indent = 0 && atMarker '.' (c :: rest)) then
      let joined := block.startLine literal (isBlank c)
      blockFrom literal indent rest (mark.right 1) false true
        { joined with text := c :: joined.text }
    else (block, ⟨c :: rest, mark, fresh⟩)

/-- The value of a block scalar behind its last line. A last line that ends with the stream counts
as broken if it reaches the indentation. -/
def BlockText.finish (block : BlockText) (chomping : Chomping) (indent : Nat) (behind : Cursor) :
    String :=
  let ended := behind.rest.isEmpty && decide (max indent 1 ≤ behind.mark.column)
  let breaks :=
    match chomping with
    | .strip => 0
    | .clip => block.broken.toNat + ended.toNat
    | .keep => block.broken.toNat + ended.toNat + block.breaks
  String.ofList (List.replicate breaks '\n' ++ block.text).reverse

/-- The value of a block scalar whose stream ends before any text. -/
def emptyBlock (chomping : Chomping) (broken : Bool) (breaks : Nat) : String :=
  match chomping, broken with
  | .strip, _ => ""
  | _, false => ""
  | .clip, true => "\n"
  | .keep, true => String.ofList (List.replicate (max breaks 1) '\n')

/-- A block scalar with the place of its text, which is that of its indicator if it has none. -/
structure BlockScalar where
  value : String
  mark : Mark
  cursor : Cursor

/-- Reads the block scalar that starts here inside a block indented by `parent`. Without an
indicator its indentation is that of its first line, or of a wider empty line before it. -/
def Cursor.blockScalar (cursor : Cursor) (literal : Bool) (parent : Int) :
    Except Fault BlockScalar := do
  let header ← blockHeader (cursor.skip 1).rest
  let behind ← (cursor.skip (1 + header.length)).skipLineRest
  if !atLineEnd behind.cursor.rest then .error .trailingText
  let line := behind.cursor.lineBreak
  if startsWith (· = '\t') line.rest then .error .tabIndentation
  let (first, breaks, indent) :=
    if header.increment = 0 then
      let (first, breaks, widest) := widestIndent line.rest line.mark line.fresh 0 0
      (first, breaks, max widest (max (parent + 1).toNat (if 0 < parent then 1 else 0)))
    else
      let indent := parent.toNat + header.increment
      let (first, breaks) := skipIndent indent line.rest line.mark line.fresh 0
      (first, breaks, indent)
  if first.rest.isEmpty then
    .ok ⟨emptyBlock header.chomping (cursor.mark.line < first.mark.line) breaks, cursor.mark, first⟩
  else if first.mark.column < indent ∧ parent < (first.mark.column : Int) then
    .error .indentation
  else
    let (block, last) :=
      blockFrom literal indent first.rest first.mark first.fresh false ⟨[], false, breaks, false⟩
    .ok ⟨block.finish header.chomping indent last, first.mark, last⟩

end TemplateHover.Yaml
