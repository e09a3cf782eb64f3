import TemplateHover.Proofs.LineLocality

namespace TemplateHover

namespace SymbolTable

theorem value?_append (table added : SymbolTable) (name : String) :
    (table ++ added).value? name = (table.value? name).or (added.value? name) :=
  List.find?_append

theorem function?_append (table added : SymbolTable) (name : String) :
    (table ++ added).function? name = (table.function? name).or (added.function? name) :=
  List.find?_append

end SymbolTable

namespace Provider

theorem value?_or_function?_of_symbol? {provider : Provider} {line word : String} {symbol : Symbol}
    (named : provider.symbol? line word = some symbol) :
    (Context.value.holds line word = true ∧ provider.table.value? word = some symbol) ∨
      (¬provider.NamesValue line word ∧ Context.function.holds line word = true ∧
        provider.table.function? word = some symbol) := by
  by_cases value : provider.NamesValue line word
  · obtain ⟨behindPoint, present⟩ := value
    obtain ⟨other, atOther⟩ := Option.isSome_iff_exists.mp present
    rw [symbol?_of_value behindPoint atOther] at named
    exact Or.inl ⟨behindPoint, atOther.trans named⟩
  · rw [symbol?_of_not_namesValue value] at named
    split at named
    · exact Or.inr ⟨value, by assumption, named⟩
    · cases named

theorem symbol?_append_of_new_value {table added : SymbolTable} {line word : String}
    {value : Symbol} (behindPoint : Context.value.holds line word = true)
    (unknown : table.value? word = none) (named : added.value? word = some value)
    (language : String) : symbol? ⟨table ++ added, language⟩ line word = some value := by
  apply symbol?_of_value behindPoint
  rw [SymbolTable.value?_append, unknown, Option.none_or, named]

/-- Added symbols leave a word its symbol, unless one of them is the first value of that name and
the word stands where a value is looked for. Then the word named a function before. -/
theorem symbol?_append_of_some {table added : SymbolTable} {language line word : String}
    {symbol : Symbol} (named : symbol? ⟨table, language⟩ line word = some symbol)
    (noNewValue : Context.value.holds line word = true → table.value? word = none →
      added.value? word = none) :
    symbol? ⟨table ++ added, language⟩ line word = some symbol := by
  obtain ⟨behindPoint, value⟩ | ⟨noValue, ownWord, function⟩ :=
    value?_or_function?_of_symbol? named
  · apply symbol?_of_value behindPoint
    rw [SymbolTable.value?_append, value, Option.some_or]
  · have stillNoValue : ¬NamesValue ⟨table ++ added, language⟩ line word := by
      rintro ⟨behindPoint, present⟩
      have unknown : table.value? word = none :=
        Option.not_isSome_iff_eq_none.mp fun known => noValue ⟨behindPoint, known⟩
      rw [SymbolTable.value?_append, unknown, noNewValue behindPoint unknown] at present
      cases present
    rw [symbol?_of_not_namesValue stillNoValue, if_pos ownWord, SymbolTable.function?_append,
      function, Option.some_or]

theorem run_of_symbol {σ : Type} {provider : Provider} {document : Document} {position : Position}
    {line word : String} {range : Range} {symbol : Symbol}
    (present : document.line position.line = some line)
    (atWord : document.wordAt position = some (word, range))
    (named : provider.symbol? line word = some symbol) (locate : KeyLocator (StateM σ)) (state : σ) :
    (provider.resolveM locate document position).run state =
      (.found (symbol.tooltip provider.language range), state) := by
  rw [resolveM_eq_plan, plan_of_word atWord present, wordPlan_of_symbol named]
  rfl

theorem exists_symbol_of_found {σ : Type} {provider : Provider} {locate : KeyLocator (StateM σ)}
    {document : Document} {position : Position} {state : σ} {tooltip : Tooltip}
    (found : ((provider.resolveM locate document position).run state).1 = .found tooltip) :
    ∃ line word range symbol, document.line position.line = some line ∧
      document.wordAt position = some (word, range) ∧
      provider.symbol? line word = some symbol ∧
      tooltip = symbol.tooltip provider.language range := by
  have shown := tooltip?_run provider locate document position state
  rw [found] at shown
  cases atWord : document.wordAt position with
  | none =>
    rw [plan_of_no_word atWord] at shown
    cases shown
  | some pair =>
    obtain ⟨word, range⟩ := pair
    obtain ⟨line, present⟩ := Document.exists_line_of_wordAt atWord
    rw [plan_of_word atWord present] at shown
    cases named : provider.symbol? line word with
    | some symbol =>
      rw [wordPlan_of_symbol named] at shown
      exact ⟨line, word, range, symbol, present, rfl, named, Option.some.inj shown⟩
    | none =>
      rw [wordPlan_of_no_symbol named] at shown
      split at shown <;> cases shown

/-- A tooltip stays as it is when symbols are added behind the known ones, with one exception. A
word behind a point is looked for among the values first. So where it names a function for want of
a value, an added value of that name takes its place, at the same range. -/
theorem found_append {σ : Type} (table added : SymbolTable) (language : String)
    (locate : KeyLocator (StateM σ)) (document : Document) (position : Position) (state : σ)
    (tooltip : Tooltip)
    (found : ((resolveM ⟨table, language⟩ locate document position).run state).1 =
      .found tooltip) :
    let extended := ((resolveM ⟨table ++ added, language⟩ locate document position).run state).1
    ∃ line word, document.line position.line = some line ∧
      document.wordAt position = some (word, tooltip.range) ∧
      ((Context.value.holds line word = true → table.value? word = none →
          added.value? word = none) →
        extended = .found tooltip) ∧
      ∀ value, Context.value.holds line word = true → table.value? word = none →
        added.value? word = some value →
        extended = .found (value.tooltip language tooltip.range) ∧
          ∃ function, table.function? word = some function ∧
            tooltip = function.tooltip language tooltip.range := by
  intro extended
  obtain ⟨line, word, range, symbol, present, atWord, named, rfl⟩ := exists_symbol_of_found found
  refine ⟨line, word, present, atWord, ?_, ?_⟩
  · intro noNewValue
    have kept := symbol?_append_of_some named noNewValue
    simp only [extended, run_of_symbol present atWord kept]
  · intro value behindPoint unknown new
    have taken := symbol?_append_of_new_value behindPoint unknown new language
    refine ⟨by simp only [extended, run_of_symbol present atWord taken]; rfl, ?_⟩
    obtain ⟨_, known⟩ | ⟨_, _, function⟩ := value?_or_function?_of_symbol? named
    · cases unknown.symm.trans known
    · exact ⟨symbol, function, rfl⟩

/-- A file that defines a builtin function once more changes nothing, not even behind a point. -/
theorem found_append_of_same_kind :
    let added : SymbolTable := ⟨[⟨"quote", "quote", "Something else."⟩], []⟩
    let document : Document := ⟨"\x7b\x7b .Values.quote | quote \x7d\x7d", 1⟩
    let failing : KeyLocator (StateM Unit) := fun _ _ => pure (.error .unexpectedToken)
    ∃ tooltip,
      ((resolveM ⟨.builtin, "helm"⟩ failing document ⟨0, 20⟩).run ()).1 = .found tooltip ∧
      ((resolveM ⟨.builtin ++ added, "helm"⟩ failing document ⟨0, 20⟩).run ()).1 =
        .found tooltip := by
  intro added document failing
  have found : ((resolveM ⟨.builtin, "helm"⟩ failing document ⟨0, 20⟩).run ()).1 =
      .found ⟨"helm", "\x7b\x7b quote $str \x7d\x7d", "Wrap a string in double quotes.",
        ⟨⟨0, 19⟩, ⟨0, 24⟩⟩⟩ := by
    decide +kernel
  obtain ⟨_, _, _, _, kept, _⟩ :=
    found_append .builtin added "helm" failing document ⟨0, 20⟩ () _ found
  exact ⟨_, found, kept fun _ _ => rfl⟩

/-- A value that a file adds takes the place of the builtin function of its name behind a point. -/
theorem builtin_function_replaced_by_value :
    let added : SymbolTable := ⟨[], [⟨"list", ".Values.list", "The hosts."⟩]⟩
    let document : Document := ⟨"\x7b\x7b .Values.list \x7d\x7d", 0⟩
    let range : Range := ⟨⟨0, 11⟩, ⟨0, 15⟩⟩
    let builtin : Tooltip := ⟨defaultLanguage, "\x7b\x7b list $items... \x7d\x7d",
      "Create a list of the given items.", range⟩
    let replaced : Tooltip := ⟨defaultLanguage, "\x7b\x7b .Values.list \x7d\x7d", "The hosts.", range⟩
    builtin ≠ replaced ∧
      resolve ⟨.builtin, defaultLanguage⟩ document ⟨0, 12⟩ = .found builtin ∧
      resolve ⟨.builtin ++ added, defaultLanguage⟩ document ⟨0, 12⟩ = .found replaced := by
  decide +kernel

end Provider

end TemplateHover
