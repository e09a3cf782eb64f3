import TemplateHover.Context
import TemplateHover.Document
import TemplateHover.Hover.Resolution
import TemplateHover.Yaml.KeySearch

namespace TemplateHover

/-- Answers whether a position of a text falls on a mapping key. It may have effects, such as
counting its calls. -/
abbrev KeyLocator (m : Type → Type) := String → Position → m (Except Yaml.Fault Bool)

/-- What tooltips are made from: the known symbols and the language of their code. -/
structure Provider where
  table : SymbolTable
  language : String
deriving DecidableEq, Repr

namespace Provider

/-- What to say of a word outside of all actions. -/
def outsideResolution (word : String) : Except Yaml.Fault Bool → Resolution
  | .ok true => .miss word
  | .ok false => .plainValue word
  | .error fault => .undeterminable word fault

/-- What to show for a word of a line, by the contexts that are left to try. A context that does
not hold, or whose symbols lack the word, leaves it to the next one. Outside of all actions the
locator decides. -/
def resolveIn {m : Type → Type} [Monad m] (provider : Provider) (locate : KeyLocator m)
    (document : Document) (position : Position) (line word : String) (range : Range) :
    List Context → m Resolution
  | [] => pure (.miss word)
  | context :: rest =>
    if context.holds line word then
      match context with
      | .value =>
        match provider.table.value? word with
        | some symbol => pure (.found (symbol.tooltip provider.language range))
        | none => provider.resolveIn locate document position line word range rest
      | .function =>
        match provider.table.function? word with
        | some symbol => pure (.found (symbol.tooltip provider.language range))
        | none => provider.resolveIn locate document position line word range rest
      | .outsideAction => outsideResolution word <$> locate document.text position
    else provider.resolveIn locate document position line word range rest

/-- What to show at a position of a document. The tests of the contexts cannot fail, for their
patterns are taken to exist for every word, so the question has no error of its own: the only fault
is one of the locator, and `undeterminable` holds it. -/
def resolveM {m : Type → Type} [Monad m] (provider : Provider) (locate : KeyLocator m)
    (document : Document) (position : Position) : m Resolution :=
  match document.wordAt position with
  | none => pure .noWord
  | some (word, range) =>
    match document.line position.line with
    | none => pure .noWord
    | some line => provider.resolveIn locate document position line word range Context.order

/-- What to show at a position of a document, with keys as its text has them. -/
def resolve (provider : Provider) (document : Document) (position : Position) : Resolution :=
  Id.run (provider.resolveM (m := Id) (fun text position => Yaml.isInKey text position) document
    position)

end Provider

end TemplateHover
