import TemplateHover.Toml.String

namespace TemplateHover.Toml

/-- A key with the keys of the tables that it passes through. -/
structure Key where
  tables : List String
  name : String

/-- The key of a list of parts, the last of which names the entry. -/
def Key.ofParts? (parts : List String) : Option Key :=
  parts.getLast?.map fun name => ⟨parts.dropLast, name⟩

/-- All parts of a key in order. -/
def Key.parts (key : Key) : List String :=
  key.tables ++ [key.name]

/-- Whether the character may stand in a key without quotes. -/
def isBare (c : Char) : Bool :=
  c.isAlphanum || c = '-' || c = '_'

/-- Reads one part of a key. A quoted part stands on one line. -/
def readPart : Reader String
  | '"' :: rest => basicString [] rest
  | '\'' :: rest => literalString [] rest
  | text =>
    let part := text.takeWhile isBare
    if part.isEmpty then none else some (String.ofList part, text.drop part.length)

/-- Reads the parts of a key, which points divide and blanks may surround, as long as there may be
more of them. -/
def readParts : (limit : Nat) → Reader (List String)
  | 0, _ => none
  | limit + 1, text =>
    match readPart (skipBlanks text) with
    | none => none
    | some (part, rest) =>
      match skipBlanks rest with
      | '.' :: rest => (readParts limit rest).map fun (parts, rest) => (part :: parts, rest)
      | rest => some ([part], rest)

/-- The most parts that a key may have. -/
def maxParts : Nat := 79

/-- Reads a key and the blanks around it. -/
def readKey : Reader Key := fun text =>
  match readParts maxParts text with
  | none => none
  | some (parts, rest) => (Key.ofParts? parts).map fun key => (key, rest)

end TemplateHover.Toml
