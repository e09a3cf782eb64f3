import TemplateHover.Hover.Tooltip
import TemplateHover.Yaml.Fault

namespace TemplateHover

/-- What came of the question what to show at a position. -/
inductive Resolution where
  | found (tooltip : Tooltip)
  /-- The document is not open. -/
  | unknownDocument
  /-- No word is under the cursor. -/
  | noWord
  /-- No symbol has the name of the word. -/
  | miss (word : String)
  /-- The word is outside of all actions and no key. -/
  | plainValue (word : String)
  /-- The word is outside of all actions, and the text does not tell whether it is a key. -/
  | undeterminable (word : String) (fault : Yaml.Fault)
deriving DecidableEq, Repr

namespace Resolution

/-- The tooltip to show, if any. -/
def tooltip? : Resolution → Option Tooltip
  | .found tooltip => some tooltip
  | _ => none

/-- The outcome in words. Of a fault of the text it says that there is one. What the reader of the
text says of it would stand behind that, and is left out. -/
def description : Resolution → String
  | .found _ => "found"
  | .unknownDocument => "document not open"
  | .noWord => "no word under cursor"
  | .miss word => "no symbol for `" ++ word ++ "`"
  | .plainValue word => "`" ++ word ++ "` is a plain value"
  | .undeterminable word _ => "cannot place `" ++ word ++ "`: Failed to parse YAML"

end Resolution

end TemplateHover
