import TemplateHover.Proofs.TooltipSoundness

namespace TemplateHover

/-- A name that is a word of its own between a text in which no word starts and what follows it. -/
structure IsOwnWord (skipped name after : List Char) : Prop where
  nonempty : name ≠ []
  run : ∀ c ∈ name, isSeparator c = false
  ended : ∀ c ∈ after.head?, isSeparator c = true
  noNumber : numberLength? (name ++ after) = none
  skips : ∀ index, wordsFrom index (skipped ++ (name ++ after)) =
    wordsFrom (index + skipped.length) (name ++ after)

namespace IsOwnWord

variable {skipped name after : List Char}

theorem wordLength_eq (own : IsOwnWord skipped name after) :
    wordLength (name ++ after) = name.length := by
  have stops : after.takeWhile (fun c => !isSeparator c) = [] := by
    cases after with
    | nil => rfl
    | cons c after => simp [own.ended c rfl]
  have taken : ∀ c ∈ name, (!isSeparator c) = true := by
    intro c member
    rw [own.run c member]
    rfl
  rw [wordLength, own.noNumber, List.takeWhile_append_of_pos taken, stops, List.append_nil]

theorem wordsFrom_eq (own : IsOwnWord skipped name after) (index : Nat) :
    wordsFrom index (name ++ after) =
      ⟨index, index + name.length⟩ :: wordsFrom (index + name.length) after := by
  have positive := mt List.length_eq_zero_iff.mp own.nonempty
  obtain ⟨length, lengthEq⟩ := Nat.exists_eq_succ_of_ne_zero positive
  rw [wordsFrom_of_wordLength (own.wordLength_eq.trans lengthEq), ← Nat.succ_eq_add_one, ← lengthEq,
    List.drop_left]

/-- Behind two opening braces such a name is one of the words of the line. The words before it all
end before the second brace. -/
theorem exists_words_cut (own : IsOwnWord skipped name after) (front : List Char) :
    let before := front ++ ['\x7b', '\x7b'] ++ skipped
    ∃ left right, words (before ++ name ++ after) =
        left ++ ⟨before.length, before.length + name.length⟩ :: right ∧
      ∀ span ∈ left, span.stop < before.length := by
  intro before
  have split : before ++ name ++ after =
      (front ++ ['\x7b']) ++ '\x7b' :: (skipped ++ (name ++ after)) := by
    simp [before]
  have length : (front ++ ['\x7b']).length + 1 + skipped.length = before.length := by
    simp [before]
    omega
  refine ⟨wordsFrom 0 (front ++ ['\x7b']), wordsFrom (before.length + name.length) after, ?_, ?_⟩
  · rw [words, split, wordsFrom_append splitsWords_openingBrace, own.skips, own.wordsFrom_eq,
      Nat.zero_add, length]
  · intro span member
    have bounds := mem_wordsFrom member
    omega

end IsOwnWord

/-- A name between white space, whatever its characters are: digits at its front make no number, for
no point follows them. -/
theorem isOwnWord_of_blanks {blanks name gap more : List Char}
    (white : ∀ c ∈ blanks, isBlank c = true) (nonempty : name ≠ [])
    (run : ∀ c ∈ name, isSeparator c = false) (parted : gap ≠ [])
    (gapWhite : ∀ c ∈ gap, isBlank c = true) : IsOwnWord blanks name (gap ++ more) := by
  obtain ⟨c, gap, rfl⟩ := List.exists_cons_of_ne_nil parted
  have starts := startsNoWord_of_isBlank (gapWhite c (by simp))
  have noPoint : '.' ∉ name := fun member => absurd (run '.' member) (by decide)
  refine ⟨nonempty, run, ?_, ?_, ?_⟩
  · rintro d same
    cases same
    exact starts.separator
  · exact numberLength?_eq_none_of_stop noPoint starts.notDigit starts.notMinus starts.notPoint _
  · intro index
    exact wordsFrom_skip (fun d member => startsNoWord_of_isBlank (white d member)) index _

/-- A name behind a point. It must not begin with a digit, which would make a number with the
point. -/
theorem isOwnWord_of_point {blanks name after : List Char}
    (white : ∀ c ∈ blanks, isBlank c = true) (nonempty : name ≠ [])
    (run : ∀ c ∈ name, isSeparator c = false) (notDigit : ∀ c ∈ name.head?, isDigit c = false)
    (ended : ∀ c ∈ after.head?, isSeparator c = true) :
    IsOwnWord (blanks ++ ['.']) name after := by
  obtain ⟨c, name, rfl⟩ := List.exists_cons_of_ne_nil nonempty
  have notSeparator := run c (by simp)
  have notMinus : c ≠ '-' := by
    rintro rfl
    exact absurd notSeparator (by decide)
  have notPoint : c ≠ '.' := by
    rintro rfl
    exact absurd notSeparator (by decide)
  refine ⟨nonempty, run, ended, ?_, ?_⟩
  · exact numberLength?_eq_none_of_stop List.not_mem_nil (notDigit c rfl) notMinus notPoint _
  · intro index
    have noWord := wordLength_eq_zero_of_head (by decide)
      (numberLength?_point_eq_none (notDigit c rfl) (name ++ after))
    rw [List.append_assoc, wordsFrom_skip fun d member => startsNoWord_of_isBlank (white d member),
      List.length_append]
    exact wordsFrom_cons_of_zero noWord (index + blanks.length)

/-- The range of a word that stands behind a text on a line. -/
def rangeBehind (number : UInt32) (before word : List Char) : Range :=
  ⟨⟨number, .ofNat (utf16 before).length⟩, ⟨number, .ofNat (utf16 (before ++ word)).length⟩⟩

theorem standsAt_rangeBehind {line word before after : List Char}
    (split : line = before ++ word ++ after)
    (bounded : (utf16 line).length < UInt32.size) (number : UInt32) :
    StandsAt line word (rangeBehind number before word) before after := by
  rw [split, length_utf16_append] at bounded
  have startBounded := bounded
  rw [length_utf16_append] at startBounded
  refine ⟨split, ?_, ?_⟩
  · exact (UInt32.toNat_ofNat_of_lt' (by omega)).symm
  · exact (UInt32.toNat_ofNat_of_lt' (by omega)).symm

/-- A name in an action is the word at each column from its start to its end. -/
theorem Document.wordAt_in_action {document : Document} {position : Position}
    {line before name : String} {front skipped after : List Char}
    (own : IsOwnWord skipped name.toList after) (present : document.line position.line = some line)
    (bounded : (utf16 line.toList).length < UInt32.size)
    (split : line.toList = before.toList ++ name.toList ++ after)
    (opened : before.toList = front ++ ['\x7b', '\x7b'] ++ skipped) :
    let range := rangeBehind position.line before.toList name.toList
    range.start.character ≤ position.character → position.character ≤ range.stop.character →
    document.wordAt position = some (name, range) := by
  intro range afterStart beforeStop
  obtain ⟨left, right, cut, passed⟩ := own.exists_words_cut front
  rw [← opened] at cut passed
  rw [← split] at cut
  have place := standsAt_rangeBehind split bounded position.line
  have atWord := wordAt_of_words present own.nonempty place cut passed rfl rfl afterStart beforeStop
  rwa [String.ofList_toList] at atWord

theorem exists_first_of_named {symbols : List Symbol} {name : String}
    (named : ∃ symbol ∈ symbols, symbol.name = name) :
    ∃ symbol, symbols.find? (·.name = name) = some symbol ∧ IsFirstNamed symbols name symbol := by
  cases first : symbols.find? (·.name = name) with
  | none =>
    obtain ⟨symbol, member, same⟩ := named
    exact absurd same (by simpa using List.find?_eq_none.mp first symbol member)
  | some symbol => exact ⟨symbol, rfl, find?_name_iff.mp first⟩

theorem not_mem_of_white {blanks : List Char} {c : Char} (white : ∀ d ∈ blanks, isBlank d = true)
    (solid : isBlank c = false) : c ∉ blanks := by
  intro member
  cases solid.symm.trans (white c member)

namespace Context

theorem functionPosition_of_blanks {front blanks gap args back : List Char}
    (white : ∀ c ∈ blanks, isBlank c = true) (parted : gap ≠ [])
    (gapWhite : ∀ c ∈ gap, isBlank c = true) (unopened : '\x7b' ∉ args) :
    FunctionPosition (front ++ ['\x7b', '\x7b'] ++ blanks)
      (gap ++ (args ++ ['\x7d', '\x7d'] ++ back)) := by
  have gapUnopened : '\x7b' ∉ gap := not_mem_of_white gapWhite (by decide)
  obtain ⟨blank, gap, rfl⟩ := List.exists_cons_of_ne_nil parted
  refine ⟨front, blanks, blank, gap ++ args, back, rfl, not_mem_of_white white (by decide),
    gapWhite blank (by simp), by simp, ?_⟩
  rw [List.mem_append]
  rintro (inGap | inArgs)
  · exact gapUnopened (List.mem_cons_of_mem blank inGap)
  · exact unopened inArgs

theorem valuePosition_of_blanks {front blanks rest back : List Char}
    (white : ∀ c ∈ blanks, isBlank c = true) (unopened : '\x7b' ∉ rest) :
    ValuePosition (front ++ ['\x7b', '\x7b'] ++ (blanks ++ ['.']))
      (rest ++ ['\x7d', '\x7d'] ++ back) :=
  ⟨front, blanks, rest, back, by simp, not_mem_of_white white (by decide), rfl, unopened⟩

end Context

theorem isSeparator_head_of_closing {rest back : List Char}
    (ended : ∀ c ∈ rest.head?, isSeparator c = true) :
    ∀ c ∈ (rest ++ ['\x7d', '\x7d'] ++ back).head?, isSeparator c = true := by
  cases rest with
  | nil =>
    rintro c same
    cases same
    decide
  | cons c rest => exact ended

namespace Provider

theorem symbol?_of_function {provider : Provider} {line word : String} {symbol : Symbol}
    (ownWord : Context.function.holds line word = true)
    (noValue : ∀ value ∈ provider.table.values, value.name ≠ word)
    (named : provider.table.function? word = some symbol) :
    provider.symbol? line word = some symbol := by
  have unvalued : ¬provider.NamesValue line word := by
    rintro ⟨-, known⟩
    obtain ⟨value, member, same⟩ := List.find?_isSome.mp known
    exact noValue value member (of_decide_eq_true same)
  rw [symbol?_of_not_namesValue unvalued, if_pos ownWord, named]

/-- A name in an action gets its tooltip at every column from its start to its end, whatever stands
around the action. First part: the name follows the white space behind the opening braces, has white
space behind it, and names a function but no value. Second part: a point comes before the name, which
names a value; the name does not begin with a digit, and what follows it up to the closing braces is
empty or begins with a separator. -/
theorem found_in_action {σ : Type} (provider : Provider) (locate : KeyLocator (StateM σ))
    (document : Document) (position : Position) (state : σ) (front blanks name back : String)
    (white : ∀ c ∈ blanks.toList, isBlank c = true) (nonempty : name ≠ "")
    (run : ∀ c ∈ name.toList, isSeparator c = false) :
    (∀ gap args : String,
      let before := front ++ "\x7b\x7b" ++ blanks
      let line := before ++ name ++ gap ++ args ++ "\x7d\x7d" ++ back
      let range := rangeBehind position.line before.toList name.toList
      gap ≠ "" → (∀ c ∈ gap.toList, isBlank c = true) → '\x7b' ∉ args.toList →
      document.line position.line = some line → (utf16 line.toList).length < UInt32.size →
      range.start.character ≤ position.character → position.character ≤ range.stop.character →
      (∀ value ∈ provider.table.values, value.name ≠ name) →
      (∃ function ∈ provider.table.functions, function.name = name) →
      ∃ symbol, IsFirstNamed provider.table.functions name symbol ∧
        (provider.resolveM locate document position).run state =
          (.found (symbol.tooltip provider.language range), state)) ∧
    (∀ rest : String,
      let before := front ++ "\x7b\x7b" ++ blanks ++ "."
      let line := before ++ name ++ rest ++ "\x7d\x7d" ++ back
      let range := rangeBehind position.line before.toList name.toList
      (∀ c ∈ name.toList.head?, isDigit c = false) →
      (∀ c ∈ rest.toList.head?, isSeparator c = true) → '\x7b' ∉ rest.toList →
      document.line position.line = some line → (utf16 line.toList).length < UInt32.size →
      range.start.character ≤ position.character → position.character ≤ range.stop.character →
      (∃ value ∈ provider.table.values, value.name = name) →
      ∃ symbol, IsFirstNamed provider.table.values name symbol ∧
        (provider.resolveM locate document position).run state =
          (.found (symbol.tooltip provider.language range), state)) := by
  have nameNonempty : name.toList ≠ [] := by simpa using nonempty
  refine ⟨?_, ?_⟩
  · intro gap args before line range parted gapWhite unopened present bounded afterStart beforeStop
      noValue named
    obtain ⟨symbol, atSymbol, first⟩ := exists_first_of_named named
    have own : IsOwnWord blanks.toList name.toList
        (gap.toList ++ (args.toList ++ ['\x7d', '\x7d'] ++ back.toList)) :=
      isOwnWord_of_blanks white nameNonempty run (by simpa using parted) gapWhite
    have split : line.toList = before.toList ++ name.toList ++
        (gap.toList ++ (args.toList ++ ['\x7d', '\x7d'] ++ back.toList)) := by
      simp [line]
    have opened : before.toList = front.toList ++ ['\x7b', '\x7b'] ++ blanks.toList := by
      simp [before]
    have atWord := Document.wordAt_in_action own present bounded split opened afterStart beforeStop
    have ownWord : Context.function.holds line name = true := by
      refine Context.function_holds_iff.mpr ⟨_, _, split, ?_⟩
      rw [opened]
      exact Context.functionPosition_of_blanks white (by simpa using parted) gapWhite unopened
    have function := symbol?_of_function ownWord noValue atSymbol
    exact ⟨symbol, first, run_of_symbol present atWord function locate state⟩
  · intro rest before line range notDigit ended unopened present bounded afterStart beforeStop named
    obtain ⟨symbol, atSymbol, first⟩ := exists_first_of_named named
    have own : IsOwnWord (blanks.toList ++ ['.']) name.toList
        (rest.toList ++ ['\x7d', '\x7d'] ++ back.toList) :=
      isOwnWord_of_point white nameNonempty run notDigit (isSeparator_head_of_closing ended)
    have split : line.toList = before.toList ++ name.toList ++
        (rest.toList ++ ['\x7d', '\x7d'] ++ back.toList) := by
      simp [line]
    have opened : before.toList =
        front.toList ++ ['\x7b', '\x7b'] ++ (blanks.toList ++ ['.']) := by
      simp [before]
    have atWord := Document.wordAt_in_action own present bounded split opened afterStart beforeStop
    have behindPoint : Context.value.holds line name = true := by
      refine Context.value_holds_iff.mpr ⟨_, _, split, ?_⟩
      rw [opened]
      exact Context.valuePosition_of_blanks white unopened
    have value := symbol?_of_value behindPoint atSymbol
    exact ⟨symbol, first, run_of_symbol present atWord value locate state⟩

/-- A function behind a number, a clef and another action, and a value with a field of its own. -/
theorem found_in_action_behind_number :
    let failing : KeyLocator (StateM Unit) := fun _ _ => pure (.error .unexpectedToken)
    let provider : Provider := ⟨.builtin, "helm"⟩
    (∃ symbol, IsFirstNamed provider.table.functions "quote" symbol ∧
      (provider.resolveM failing ⟨"-1.5𝄞\x7b\x7b .x \x7d\x7d\x7b\x7b quote .y \x7d\x7d", 1⟩
          ⟨0, 22⟩).run () =
        (.found (symbol.tooltip "helm" ⟨⟨0, 17⟩, ⟨0, 22⟩⟩), ())) ∧
    ∃ symbol, IsFirstNamed provider.table.values "Release" symbol ∧
      (provider.resolveM failing ⟨"-1.5\x7b\x7b .Release.Name \x7d\x7d", 1⟩ ⟨0, 8⟩).run () =
        (.found (symbol.tooltip "helm" ⟨⟨0, 8⟩, ⟨0, 15⟩⟩), ()) := by
  intro failing provider
  have blank : ∀ c ∈ " ".toList, isBlank c = true := List.all_eq_true.mp (by decide)
  have run (name : String) (checked : name.toList.all (!isSeparator ·) = true) :
      ∀ c ∈ name.toList, isSeparator c = false := by
    simpa using checked
  refine ⟨?_, ?_⟩
  · have named := found_in_action provider failing
      ⟨"-1.5𝄞\x7b\x7b .x \x7d\x7d\x7b\x7b quote .y \x7d\x7d", 1⟩ ⟨0, 22⟩ ()
      "-1.5𝄞\x7b\x7b .x \x7d\x7d" " " "quote" "" blank (by decide) (run "quote" (by decide))
    refine named.1 " " ".y " (by decide) blank ?_ ?_ ?_ ?_ ?_ ?_ ?_ <;> decide +kernel
  · have named := found_in_action provider failing
      ⟨"-1.5\x7b\x7b .Release.Name \x7d\x7d", 1⟩ ⟨0, 8⟩ () "-1.5" " " "Release" "" blank
      (by decide) (run "Release" (by decide))
    have letter : ∀ c ∈ "Release".toList.head?, isDigit c = false := by simp; decide
    have point : ∀ c ∈ ".Name ".toList.head?, isSeparator c = true := by simp; decide
    refine named.2 ".Name " letter point ?_ ?_ ?_ ?_ ?_ ?_ <;> decide +kernel

end Provider

end TemplateHover
