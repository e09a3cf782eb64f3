import TemplateHover.Toml.Draft
import TemplateHover.Toml.Time

namespace TemplateHover.Toml

/-- Whether the character ends a value without quotes. -/
def endsWord (c : Char) : Bool :=
  isBlank c || c = '\n' || c = '\r' || c = ',' || c = ']' || c = '\x7d' || c = '#'

/-- The meaning of a value without quotes. -/
def wordValue? (word : List Char) : Option Value :=
  if word = ['t', 'r', 'u', 'e'] then some (.boolean true)
  else if word = ['f', 'a', 'l', 's', 'e'] then some (.boolean false)
  else if isTime word then some .time
  else (float? word).or (integer? word)

/-- Reads a value without quotes. A space may divide a date from its time of day. -/
def readWord : Reader Value := fun text =>
  let word := text.takeWhile fun c => !endsWord c
  let rest := text.drop word.length
  match rest with
  | ' ' :: c :: more =>
    if skipDate? word = some [] && c.isDigit then
      let time := (c :: more).takeWhile fun c => !endsWord c
      if isOffsetTime time then some (.time, (c :: more).drop time.length) else none
    else (wordValue? word).map fun value => (value, rest)
  | _ => (wordValue? word).map fun value => (value, rest)

/-- Reads the items of an array behind its opening bracket, at most as many as the bound. A comma
may follow the last item. -/
def readItems (readItem : Reader Value) : (bound : Nat) → Reader (List Value)
  | 0, _ => none
  | bound + 1, text =>
    match skipSpace false text with
    | ']' :: rest => some ([], rest)
    | text =>
      match readItem text with
      | none => none
      | some (item, rest) =>
        match skipSpace false rest with
        | ',' :: rest =>
          (readItems readItem bound rest).map fun (items, rest) => (item :: items, rest)
        | ']' :: rest => some ([item], rest)
        | _ => none

/-- Reads a key, the equality sign and the value, with the blanks around them. -/
def readPair (readItem : Reader Value) : Reader (Key × Value) := fun text =>
  match readKey text with
  | some (key, '=' :: rest) =>
    (readItem (skipBlanks rest)).map fun (value, rest) => ((key, value), skipBlanks rest)
  | _ => none

/-- Reads the pairs of an inline table, at most as many as the bound. -/
def readPairs (readItem : Reader Value) : (bound : Nat) → Reader (List (Key × Value))
  | 0, _ => none
  | bound + 1, text =>
    match readPair readItem text with
    | some (pair, ',' :: rest) =>
      (readPairs readItem bound rest).map fun (pairs, rest) => (pair :: pairs, rest)
    | some (pair, '\x7d' :: rest) => some ([pair], rest)
    | _ => none

/-- Reads an inline table behind its opening brace. It stands on one line, and no comma follows its
last pair. -/
def readInlineTable (readItem : Reader Value) : Reader Value := fun text =>
  match skipBlanks text with
  | '\x7d' :: rest => some (.table [], rest)
  | text =>
    match readPairs readItem text.length text with
    | none => none
    | some (pairs, rest) => (ofPairs? pairs).map fun table => (table, rest)

/-- Reads a value whose arrays and inline tables go at most the given number of levels deep. -/
def readValueWithin : (levels : Nat) → Reader Value
  | levels, text =>
    match levels, text with
    | levels + 1, '[' :: rest =>
      (readItems (readValueWithin levels) text.length rest).map fun (items, rest) =>
        (.array items, rest)
    | levels + 1, '\x7b' :: rest => readInlineTable (readValueWithin levels) rest
    | _, '"' :: _ | _, '\'' :: _ =>
      (readString text).map fun (string, rest) => (.string string, rest)
    | _, _ => readWord text

/-- How many levels deep arrays and inline tables may go. -/
def maxLevels : Nat := 79

/-- Reads a value. -/
def readValue : Reader Value :=
  readValueWithin maxLevels

end TemplateHover.Toml
