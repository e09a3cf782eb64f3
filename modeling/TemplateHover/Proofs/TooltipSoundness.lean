import TemplateHover.Proofs.ActionContexts
import TemplateHover.Proofs.UserSymbols
import TemplateHover.Proofs.WordPlace

namespace TemplateHover

/-- The first symbol of a list that has a name. -/
def IsFirstNamed (symbols : List Symbol) (name : String) (symbol : Symbol) : Prop :=
  ∃ earlier later, symbols = earlier ++ symbol :: later ∧ symbol.name = name ∧
    ∀ other ∈ earlier, other.name ≠ name

theorem find?_name_iff {symbols : List Symbol} {name : String} {symbol : Symbol} :
    symbols.find? (·.name = name) = some symbol ↔ IsFirstNamed symbols name symbol := by
  simp only [List.find?_eq_some_iff_append, decide_eq_true_eq, IsFirstNamed, Bool.not_eq_true',
    decide_eq_false_iff_not]
  constructor
  · rintro ⟨named, earlier, later, split, others⟩
    exact ⟨earlier, later, split, named, others⟩
  · rintro ⟨earlier, later, split, named, others⟩
    exact ⟨named, earlier, later, split, others⟩

/-- A word names a symbol where it stands on a line: the first value of that name behind a point in
an action, or the first function of that name before white space in one. -/
def NamedAt (table : SymbolTable) (word : String) (symbol : Symbol) (before after : List Char) :
    Prop :=
  IsFirstNamed table.values word symbol ∧ Context.ValuePosition before after ∨
    IsFirstNamed table.functions word symbol ∧ Context.FunctionPosition before after

namespace Provider

theorem exists_namedAt_of_symbol? {provider : Provider} {line word : String} {symbol : Symbol}
    (named : provider.symbol? line word = some symbol) :
    ∃ before after, line.toList = before ++ word.toList ++ after ∧
      NamedAt provider.table word symbol before after := by
  obtain ⟨behindPoint, value⟩ | ⟨-, ownWord, function⟩ := value?_or_function?_of_symbol? named
  · obtain ⟨before, after, split, inPosition⟩ := Context.value_holds_iff.mp behindPoint
    exact ⟨before, after, split, Or.inl ⟨find?_name_iff.mp value, inPosition⟩⟩
  · obtain ⟨before, after, split, inPosition⟩ := Context.function_holds_iff.mp ownWord
    exact ⟨before, after, split, Or.inr ⟨find?_name_iff.mp function, inPosition⟩⟩

/-- A tooltip tells the truth about the text. Its range holds the cursor and a word of one line, its
content is that of the first symbol of its kind with exactly this name, and somewhere on the line the
word stands in an action: behind a point if the symbol is a value, before white space if it is a
function. -/
theorem found_sound {σ : Type} (provider : Provider) (locate : KeyLocator (StateM σ))
    (document : Document) (position : Position) (state : σ) (tooltip : Tooltip)
    (found : ((provider.resolveM locate document position).run state).1 = .found tooltip) :
    tooltip.range.start.line = position.line ∧ tooltip.range.stop.line = position.line ∧
    tooltip.range.start.character < tooltip.range.stop.character ∧
    tooltip.range.start.character ≤ position.character ∧
    position.character ≤ tooltip.range.stop.character ∧
    ∃ line word symbol before after,
      document.line position.line = some line ∧ document.textIn tooltip.range = some word ∧
      word ≠ "" ∧
      tooltip = ⟨provider.language, "\x7b\x7b " ++ symbol.signature ++ " \x7d\x7d",
        symbol.documentation, tooltip.range⟩ ∧
      line.toList = before ++ word.toList ++ after ∧
      NamedAt provider.table word symbol before after := by
  obtain ⟨line, word, range, symbol, present, atWord, named, rfl⟩ := exists_symbol_of_found found
  obtain ⟨-, inRange, nonempty⟩ := Document.wordAt_eq_some_iff.mp atWord
  obtain ⟨⟨startLine, stopLine, afterStart, beforeStop⟩, -, _, _, _, -, place⟩ :=
    Document.exists_standsAt_of_wordAt atWord
  obtain ⟨before, after, split, inAction⟩ := exists_namedAt_of_symbol? named
  have wide := place.start_lt_stop (by simpa using nonempty)
  exact ⟨startLine, stopLine, wide, afterStart, beforeStop, line, word, symbol, before, after,
    present, inRange, nonempty, rfl, split, inAction⟩

/-- The range counts code units: the clef before the action takes two columns. -/
theorem found_sound_behind_surrogates :
    let document : Document := ⟨"ü𝄞 \x7b\x7b quote .x \x7d\x7d", 1⟩
    let failing : KeyLocator (StateM Unit) := fun _ _ => pure (.error .unexpectedToken)
    let tooltip : Tooltip := ⟨"helm", "\x7b\x7b quote $str \x7d\x7d",
      "Wrap a string in double quotes.", ⟨⟨0, 7⟩, ⟨0, 12⟩⟩⟩
    ((resolveM ⟨.builtin, "helm"⟩ failing document ⟨0, 12⟩).run ()).1 = .found tooltip ∧
      ∃ word, document.textIn ⟨⟨0, 7⟩, ⟨0, 12⟩⟩ = some word ∧ word ≠ "" := by
  intro document failing tooltip
  have found : ((resolveM ⟨.builtin, "helm"⟩ failing document ⟨0, 12⟩).run ()).1 =
      .found tooltip := by
    decide +kernel
  obtain ⟨-, -, -, -, -, _, word, _, _, _, -, inRange, nonempty, -⟩ :=
    found_sound ⟨.builtin, "helm"⟩ failing document ⟨0, 12⟩ () tooltip found
  exact ⟨found, word, inRange, nonempty⟩

end Provider

end TemplateHover
