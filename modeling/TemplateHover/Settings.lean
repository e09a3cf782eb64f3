import TemplateHover.Hover.Tooltip
import TemplateHover.Json.Number
import TemplateHover.Text.Quoted

namespace TemplateHover

/-- What an editor may choose when it starts a session: the language of the code in tooltips, and
a file with symbols of its own. -/
structure Settings where
  language : String
  symbols : Option String
deriving DecidableEq, Repr

namespace Settings

/-- The settings of an editor that chooses nothing. -/
def default : Settings :=
  ⟨defaultLanguage, none⟩

/-- What a place in the settings asks for. -/
inductive Expected where
  | text
  | path
  | settings
deriving DecidableEq, Repr

/-- The name of what was expected. -/
def Expected.name : Expected → String
  | .text => "a string"
  | .path => "path string"
  | .settings => "struct Config"

/-- Why a value gives no settings. -/
inductive Fault where
  /-- A value of another kind stands in a place. -/
  | wrongKind (found : Json) (expected : Expected)
  /-- A list has more items than there are settings. -/
  | tooLong (length : Nat)

/-- What a value of the wrong kind is called. -/
def kindName : Json → String
  | .null => "null"
  | .bool true => "boolean `true`"
  | .bool false => "boolean `false`"
  | .number (.integer value) => "integer `" ++ Json.Number.intText value ++ "`"
  | .number (.float value) => "floating point `" ++ Json.Number.floatText value ++ "`"
  | .string text => "string " ++ quoted text
  | .array _ => "sequence"
  | .object _ => "map"

/-- What a fault says. -/
def Fault.message : Fault → String
  | .wrongKind found expected =>
    "invalid type: " ++ kindName found ++ ", expected " ++ expected.name
  | .tooLong length =>
    "invalid length " ++ toString length ++ ", expected fewer elements in array"

/-- The settings with the language that a value names. -/
def withLanguage (settings : Settings) : Json → Except Fault Settings
  | .string language => .ok { settings with language := language }
  | found => .error (.wrongKind found .text)

/-- The settings with the file that a value names. -/
def withSymbols (settings : Settings) : Json → Except Fault Settings
  | .null => .ok { settings with symbols := none }
  | .string path => .ok { settings with symbols := some path }
  | found => .error (.wrongKind found .path)

/-- The settings with one member of an object. Members of other names have no meaning. -/
def withMember (settings : Settings) : String × Json → Except Fault Settings
  | ("language", value) => settings.withLanguage value
  | ("symbols", value) => settings.withSymbols value
  | _ => .ok settings

/-- The settings with the items of a list, which stand in the order of the fields. -/
def withItems (settings : Settings) : List Json → Except Fault Settings
  | [] => .ok settings
  | [language] => settings.withLanguage language
  | language :: path :: rest => do
    let settings ← settings.withLanguage language
    let settings ← settings.withSymbols path
    if rest.isEmpty then .ok settings else .error (.tooLong (rest.length + 2))

/-- The settings that a value describes. What it leaves out keeps its default, and the first
member at fault is reported. -/
def ofJson : Json → Except Fault Settings
  | .object members => members.foldlM withMember default
  | .array items => default.withItems items
  | found => .error (.wrongKind found .settings)

end Settings

end TemplateHover
