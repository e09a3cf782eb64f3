import TemplateHover.Position
import TemplateHover.Text.Line
import TemplateHover.Text.Utf16
import TemplateHover.Yaml.Event
import TemplateHover.Yaml.Scanner

namespace TemplateHover.Yaml

/-- Whether a scalar covers a position of a text with the given lines. It is taken to stand on its
first line alone, with the width of its value and of its quotes. Both ends count. -/
def Scalar.covers (scalar : Scalar) (lines : List (List Char)) (position : Position) : Bool :=
  let quoted := scalar.style = .singleQuoted || scalar.style = .doubleQuoted
  let width := scalar.value.length + if quoted then 2 else 0
  match scalar.mark.line with
  | 0 => false
  | number + 1 =>
    match lines[number]? with
    | none => false
    | some line =>
      let column := position.character.toNat
      number = position.line.toNat &&
        decide (widthUpTo line scalar.mark.column ≤ column) &&
        decide (column ≤ widthUpTo line (scalar.mark.column + width))

/-- A collection around the node to come. A mapping knows whether that node is a key. -/
inductive Frame where
  | mapping (expectsKey : Bool)
  | sequence
deriving DecidableEq, Repr

/-- A search for the first scalar that covers a position: the collections around the node to come,
innermost first, and whether the scalar was a key once it is found. -/
structure KeySearch where
  frames : List Frame
  found : Option Bool
deriving DecidableEq, Repr

namespace KeySearch

/-- The search before the first event. -/
def start : KeySearch :=
  ⟨[], none⟩

/-- Whether the node to come is a key. -/
def inKey (search : KeySearch) : Bool :=
  search.frames.head? = some (.mapping true)

/-- The search behind a node, which turns the mapping around it from key to value or back. -/
def nodeDone (search : KeySearch) : KeySearch :=
  match search.frames with
  | .mapping expectsKey :: frames => { search with frames := .mapping (!expectsKey) :: frames }
  | _ => search

/-- The search behind an event. Only the first scalar that covers the position counts. -/
def step (covers : Scalar → Bool) (search : KeySearch) : Event → KeySearch
  | .scalar scalar =>
    let found :=
      if search.found.isNone && covers scalar then some search.inKey else search.found
    { search with found := found }.nodeDone
  | .alias => search.nodeDone
  | .mappingStart => { search with frames := .mapping true :: search.frames }
  | .sequenceStart => { search with frames := .sequence :: search.frames }
  | .mappingEnd => { search with frames := search.frames.tail }.nodeDone
  | .sequenceEnd => { search with frames := search.frames.tail }.nodeDone
  | _ => search

/-- The search behind all events. -/
def run (covers : Scalar → Bool) (events : List Event) : KeySearch :=
  events.foldl (step covers) start

end KeySearch

/-- The events of a text. -/
def events (text : String) : Except Fault (List Event) :=
  match scan text.toList with
  | .error fault => .error fault
  | .ok tokens => eventsOfTokens tokens

/-- Whether a position of a text falls on a mapping key. A fault anywhere in the text leaves the
question open. -/
def isInKey (text : String) (position : Position) : Except Fault Bool :=
  match events text with
  | .error fault => .error fault
  | .ok events =>
    let search := KeySearch.run (·.covers (lines text.toList) position) events
    .ok (search.found.getD false)

end TemplateHover.Yaml
