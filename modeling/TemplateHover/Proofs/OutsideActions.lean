import TemplateHover.Proofs.TooltipSoundness

namespace TemplateHover

/-- The brace that is nearest to the end of a text. -/
def lastBrace? (text : List Char) : Option Char :=
  text.reverse.find? fun c => c == '\x7b' || c == '\x7d'

theorem lastBrace?_append_of_not_splitsWords {inner : List Char}
    (braceless : ∀ c ∈ inner, ¬SplitsWords c) (front : List Char) :
    lastBrace? (front ++ inner) = lastBrace? front := by
  have absent : inner.reverse.find? (fun c => c == '\x7b' || c == '\x7d') = none := by
    rw [List.find?_eq_none]
    intro c member isBrace
    have allowed := braceless c (List.mem_reverse.mp member)
    simp only [Bool.or_eq_true, beq_iff_eq] at isBrace
    rcases isBrace with rfl | rfl
    · exact allowed splitsWords_openingBrace
    · exact allowed splitsWords_closingBrace
  rw [lastBrace?, List.reverse_append, List.find?_append, absent, Option.none_or, lastBrace?]

/-- Two occurrences of a word that overlap have the same brace to their left, for a word has no brace
in it. -/
theorem lastBrace?_of_overlap {line word before after otherBefore otherAfter : List Char}
    (braceless : ∀ c ∈ word, ¬SplitsWords c) (split : line = before ++ word ++ after)
    (otherSplit : line = otherBefore ++ word ++ otherAfter)
    (ordered : before.length ≤ otherBefore.length)
    (overlap : otherBefore.length < before.length + word.length) :
    lastBrace? otherBefore = lastBrace? before := by
  have inWord : otherBefore = before ++ word.take (otherBefore.length - before.length) := by
    calc otherBefore
      _ = line.take otherBefore.length := by rw [otherSplit, List.append_assoc, List.take_left]
      _ = before ++ word.take (otherBefore.length - before.length) := by
        rw [split, List.append_assoc, List.take_append, List.take_of_length_le ordered,
          List.take_append_of_le_length (by omega)]
  rw [inWord]
  apply lastBrace?_append_of_not_splitsWords
  intro c member
  exact braceless c (List.mem_of_mem_take member)

theorem apart_of_lastBrace?_ne {line word before after otherBefore otherAfter : List Char}
    (braceless : ∀ c ∈ word, ¬SplitsWords c) (split : line = before ++ word ++ after)
    (otherSplit : line = otherBefore ++ word ++ otherAfter)
    (different : lastBrace? otherBefore ≠ lastBrace? before) :
    otherBefore.length + word.length ≤ before.length ∨
      before.length + word.length ≤ otherBefore.length := by
  rcases Nat.le_total before.length otherBefore.length with ordered | ordered
  · refine Or.inr (Nat.le_of_not_lt fun overlap => different ?_)
    exact lastBrace?_of_overlap braceless split otherSplit ordered overlap
  · refine Or.inl (Nat.le_of_not_lt fun overlap => different ?_)
    exact (lastBrace?_of_overlap braceless otherSplit split ordered overlap).symm

theorem lastBrace?_of_unclosed {inner : List Char} (unclosed : '\x7d' ∉ inner) (front : List Char) :
    lastBrace? (front ++ ['\x7b', '\x7b'] ++ inner) = some '\x7b' := by
  rw [lastBrace?, List.reverse_append, List.find?_append]
  cases brace : inner.reverse.find? fun c => c == '\x7b' || c == '\x7d' with
  | none => simp
  | some c =>
    have member := List.mem_reverse.mp (List.mem_of_find?_eq_some brace)
    have isBrace := List.find?_some brace
    simp only [Bool.or_eq_true, beq_iff_eq] at isBrace
    rcases isBrace with rfl | rfl
    · rfl
    · exact absurd member unclosed

theorem NamedAt.lastBrace? {table : SymbolTable} {word : String} {symbol : Symbol}
    {before after : List Char} (named : NamedAt table word symbol before after) :
    lastBrace? before = some '\x7b' := by
  obtain ⟨-, front, inner, _, _, rfl, unclosed, -⟩ | ⟨-, front, inner, _, _, _, rfl, unclosed, -⟩ := named
  · rw [List.append_assoc]
    exact lastBrace?_of_unclosed (by simpa using unclosed) front
  · exact lastBrace?_of_unclosed unclosed front

/-- Some occurrence of a word on a line stands where it names a symbol, and does not overlap with the
occurrence behind the text `before`. -/
def NamedElsewhere (table : SymbolTable) (line word : String) (before : List Char)
    (symbol : Symbol) : Prop :=
  ∃ otherBefore otherAfter,
    (otherBefore.length + word.toList.length ≤ before.length ∨
      before.length + word.toList.length ≤ otherBefore.length) ∧
    line.toList = otherBefore ++ word.toList ++ otherAfter ∧
    NamedAt table word symbol otherBefore otherAfter

namespace Provider

theorem exists_symbol?_of_namedAt {provider : Provider} {line word : String} {symbol : Symbol}
    {before after : List Char} (split : line.toList = before ++ word.toList ++ after)
    (named : NamedAt provider.table word symbol before after) :
    ∃ shown, provider.symbol? line word = some shown := by
  obtain ⟨first, inPosition⟩ | ⟨first, inPosition⟩ := named
  · have behindPoint := Context.value_holds_iff.mpr ⟨before, after, split, inPosition⟩
    exact ⟨symbol, symbol?_of_value behindPoint (find?_name_iff.mpr first)⟩
  · have ownWord := Context.function_holds_iff.mpr ⟨before, after, split, inPosition⟩
    by_cases value : provider.NamesValue line word
    · obtain ⟨behindPoint, known⟩ := value
      obtain ⟨shown, atShown⟩ := Option.isSome_iff_exists.mp known
      exact ⟨shown, symbol?_of_value behindPoint atShown⟩
    · refine ⟨symbol, ?_⟩
      rw [symbol?_of_not_namesValue value, if_pos ownWord]
      exact find?_name_iff.mpr first

/-- The symbol of a word outside of all actions comes from another occurrence of the word. -/
theorem namedElsewhere_of_symbol? {provider : Provider} {line word : String} {symbol : Symbol}
    {before after : List Char} (braceless : ∀ c ∈ word.toList, ¬SplitsWords c)
    (split : line.toList = before ++ word.toList ++ after)
    (outside : lastBrace? before ≠ some '\x7b')
    (named : provider.symbol? line word = some symbol) :
    NamedElsewhere provider.table line word before symbol := by
  obtain ⟨otherBefore, otherAfter, otherSplit, inAction⟩ := exists_namedAt_of_symbol? named
  have different : lastBrace? otherBefore ≠ lastBrace? before := by
    rw [inAction.lastBrace?]
    exact outside.symm
  have apart := apart_of_lastBrace?_ne braceless split otherSplit different
  exact ⟨otherBefore, otherAfter, apart, otherSplit, inAction⟩

theorem run_of_no_symbol {σ : Type} {provider : Provider} {document : Document}
    {position : Position} {line word : String} {range : Range}
    (present : document.line position.line = some line)
    (atWord : document.wordAt position = some (word, range))
    (unnamed : provider.symbol? line word = none) (locate : KeyLocator (StateM σ)) (state : σ) :
    let outcome := ((provider.resolveM locate document position).run state).1
    outcome = .miss word ∨ outcome = .plainValue word ∨
      ∃ fault, outcome = .undeterminable word fault := by
  intro outcome
  have planned : outcome = (((provider.wordPlan line word range).run
      (locate document.text position)).run state).1 := by
    simp only [outcome, resolveM_eq_plan, plan_of_word atWord present]
  rw [wordPlan_of_no_symbol unnamed] at planned
  split at planned
  · have asked : outcome =
        outsideResolution word ((locate document.text position).run state).1 := planned
    cases answer : ((locate document.text position).run state).1 with
    | error fault =>
      rw [answer] at asked
      exact Or.inr (Or.inr ⟨fault, asked⟩)
    | ok isKey =>
      rw [answer] at asked
      cases isKey with
      | true => exact Or.inl asked
      | false => exact Or.inr (Or.inl asked)
  · exact Or.inl planned

/-- A word outside of all actions gets no tooltip, unless the same word stands in an action elsewhere
on the line and names a symbol there. The tests for actions look at the whole line, so the word under
the cursor then gets the tooltip that the other occurrence calls for, at its own range. -/
theorem no_tooltip_outside_actions {σ : Type} (provider : Provider)
    (locate : KeyLocator (StateM σ)) (document : Document) (position : Position) (state : σ)
    (line word : String) (range : Range) (before after : List Char)
    (present : document.line position.line = some line)
    (atWord : document.wordAt position = some (word, range))
    (place : StandsAt line.toList word.toList range before after)
    (outside : lastBrace? before ≠ some '\x7b') :
    let outcome := ((provider.resolveM locate document position).run state).1
    ((∀ symbol, ¬NamedElsewhere provider.table line word before symbol) →
      outcome = .miss word ∨ outcome = .plainValue word ∨
        ∃ fault, outcome = .undeterminable word fault) ∧
    ((∃ symbol, NamedElsewhere provider.table line word before symbol) →
      ∃ symbol, NamedElsewhere provider.table line word before symbol ∧
        outcome = .found (symbol.tooltip provider.language range)) := by
  intro outcome
  obtain ⟨-, braceless, -⟩ := Document.exists_standsAt_of_wordAt atWord
  refine ⟨?_, ?_⟩
  · intro alone
    cases named : provider.symbol? line word with
    | none => exact run_of_no_symbol present atWord named locate state
    | some symbol =>
      have elsewhere := namedElsewhere_of_symbol? braceless place.split outside named
      exact absurd elsewhere (alone symbol)
  · rintro ⟨_, _, _, -, split, inAction⟩
    obtain ⟨symbol, named⟩ := exists_symbol?_of_namedAt split inAction
    have elsewhere := namedElsewhere_of_symbol? braceless place.split outside named
    have shown := run_of_symbol present atWord named locate state
    exact ⟨symbol, elsewhere, congrArg Prod.fst shown⟩

/-- The name of a function between two actions is left to the locator, which fails here. -/
theorem no_tooltip_outside_actions_between :
    let provider : Provider := ⟨.builtin, "helm"⟩
    let line := "\x7b\x7b .x \x7d\x7d quote: \x7b\x7b .y \x7d\x7d"
    let range : Range := ⟨⟨0, 9⟩, ⟨0, 14⟩⟩
    let failing : KeyLocator (StateM Unit) := fun _ _ => pure (.error .unexpectedToken)
    let outcome := ((provider.resolveM failing ⟨line, 1⟩ ⟨0, 10⟩).run ()).1
    Document.wordAt ⟨line, 1⟩ ⟨0, 10⟩ = some ("quote", range) ∧
      lastBrace? "\x7b\x7b .x \x7d\x7d ".toList = some '\x7d' ∧
      (outcome = .miss "quote" ∨ outcome = .plainValue "quote" ∨
        ∃ fault, outcome = .undeterminable "quote" fault) := by
  intro provider line range failing outcome
  have atWord : Document.wordAt ⟨line, 1⟩ ⟨0, 10⟩ = some ("quote", range) := by decide +kernel
  have closed : lastBrace? "\x7b\x7b .x \x7d\x7d ".toList = some '\x7d' := by decide +kernel
  have unnamed : provider.symbol? line "quote" = none := by decide +kernel
  have alone (symbol : Symbol) :
      ¬NamedElsewhere provider.table line "quote" "\x7b\x7b .x \x7d\x7d ".toList symbol := by
    rintro ⟨_, _, -, split, inAction⟩
    obtain ⟨_, shown⟩ := exists_symbol?_of_namedAt split inAction
    cases unnamed.symm.trans shown
  refine ⟨atWord, closed, ?_⟩
  exact (no_tooltip_outside_actions provider failing ⟨line, 1⟩ ⟨0, 10⟩ () line "quote" range
    "\x7b\x7b .x \x7d\x7d ".toList ": \x7b\x7b .y \x7d\x7d".toList (by decide +kernel) atWord
    ⟨by decide +kernel, by decide +kernel, by decide +kernel⟩ (by rw [closed]; decide)).1 alone

/-- A key that is also called as a function on its line gets the tooltip of the function, although
no action is open before it. -/
theorem tooltip_outside_actions :
    let document : Document := ⟨"quote: \x7b\x7b quote .x \x7d\x7d", 0⟩
    let key : KeyLocator (StateM Unit) := fun _ _ => pure (.ok true)
    let range : Range := ⟨⟨0, 0⟩, ⟨0, 5⟩⟩
    document.line 0 = some "quote: \x7b\x7b quote .x \x7d\x7d" ∧
      document.wordAt ⟨0, 2⟩ = some ("quote", range) ∧
      StandsAt "quote: \x7b\x7b quote .x \x7d\x7d".toList "quote".toList range []
        ": \x7b\x7b quote .x \x7d\x7d".toList ∧
      lastBrace? [] = none ∧
      ((resolveM ⟨.builtin, defaultLanguage⟩ key document ⟨0, 2⟩).run ()).1 =
        .found ⟨defaultLanguage, "\x7b\x7b quote $str \x7d\x7d",
          "Wrap a string in double quotes.", range⟩ := by
  refine ⟨by decide +kernel, by decide +kernel, ⟨?_, ?_, ?_⟩, rfl, ?_⟩ <;> decide +kernel

end Provider

end TemplateHover
