namespace TemplateHover.Toml

/-- A value of a TOML document. Of floating point numbers and times only the kind is kept. -/
inductive Value where
  | string (text : String)
  | integer (number : Int)
  | float
  | boolean (truth : Bool)
  | time
  | array (items : List Value)
  | table (entries : List (String × Value))

/-- The value of a key in a table. -/
def Value.get? : Value → String → Option Value
  | .table entries, key => entries.lookup key
  | _, _ => none

/-- Reads something from the front of a text and gives the rest. -/
abbrev Reader (α : Type) := List Char → Option (α × List Char)

end TemplateHover.Toml
