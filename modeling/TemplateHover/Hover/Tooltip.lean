import TemplateHover.Json.Basic
import TemplateHover.Position
import TemplateHover.Symbol.Table

namespace TemplateHover

/-- What an editor shows for a word: a piece of code in some language, a text below it, and where
the word stands. -/
structure Tooltip where
  language : String
  code : String
  documentation : String
  range : Range
deriving DecidableEq, Repr

/-- The language of the code in tooltips unless the editor asks for another one. -/
def defaultLanguage : String :=
  "helm-template"

/-- The tooltip of a symbol. The code is an action with the signature in it. -/
def Symbol.tooltip (symbol : Symbol) (language : String) (range : Range) : Tooltip :=
  ⟨language, "\x7b\x7b " ++ symbol.signature ++ " \x7d\x7d", symbol.documentation, range⟩

/-- The message form of a position. -/
def Position.toJson (position : Position) : Json :=
  .ofMembers [("line", .int position.line.toNat), ("character", .int position.character.toNat)]

/-- The message form of a range. -/
def Range.toJson (range : Range) : Json :=
  .ofMembers [("start", range.start.toJson), ("end", range.stop.toJson)]

/-- The message form of a tooltip. -/
def Tooltip.toJson (tooltip : Tooltip) : Json :=
  .ofMembers [
    ("contents", .array [
      .ofMembers [("language", .string tooltip.language), ("value", .string tooltip.code)],
      .string tooltip.documentation]),
    ("range", tooltip.range.toJson)]

end TemplateHover
