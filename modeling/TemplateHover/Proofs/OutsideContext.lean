import TemplateHover.Proofs.OutsideActions

namespace TemplateHover

theorem isBrace_of_lastBrace? {text : List Char} {c : Char} (nearest : lastBrace? text = some c) :
    c = '\x7b' ∨ c = '\x7d' := by
  have isBrace := List.find?_some nearest
  simpa only [Bool.or_eq_true, beq_iff_eq] using isBrace

theorem mem_of_lastBrace? {text : List Char} {c : Char} (nearest : lastBrace? text = some c) :
    c ∈ text :=
  List.mem_reverse.mp (List.mem_of_find?_eq_some nearest)

theorem lastBrace?_eq_none_iff {text : List Char} :
    lastBrace? text = none ↔ '\x7b' ∉ text ∧ '\x7d' ∉ text := by
  rw [lastBrace?, List.find?_eq_none]
  constructor
  · intro braceless
    refine ⟨fun opening => ?_, fun closing => ?_⟩
    · exact braceless '\x7b' (List.mem_reverse.mpr opening) (by decide)
    · exact braceless '\x7d' (List.mem_reverse.mpr closing) (by decide)
  · rintro ⟨unopened, unclosed⟩ c member isBrace
    have inText := List.mem_reverse.mp member
    simp only [Bool.or_eq_true, beq_iff_eq] at isBrace
    rcases isBrace with rfl | rfl
    · exact unopened inText
    · exact unclosed inText

theorem lastBrace?_ne_opening_iff {text : List Char} :
    lastBrace? text ≠ some '\x7b' ↔
      lastBrace? text = some '\x7d' ∨ '\x7b' ∉ text ∧ '\x7d' ∉ text := by
  constructor
  · intro outside
    cases nearest : lastBrace? text with
    | none => exact Or.inr (lastBrace?_eq_none_iff.mp nearest)
    | some c =>
      rcases isBrace_of_lastBrace? nearest with rfl | rfl
      · exact absurd nearest outside
      · exact Or.inl rfl
  · rintro (closed | braceless) opened
    · cases closed.symm.trans opened
    · cases (lastBrace?_eq_none_iff.mpr braceless).symm.trans opened

theorem lastBrace?_append_closing (front run : List Char) :
    lastBrace? (front ++ '\x7d' :: run) = (lastBrace? run).or (some '\x7d') := by
  simp [lastBrace?, List.find?_append]

/-- No action is open at the end of a text exactly if a run without opening braces leads there from
the start of the text or from some closing brace, which need not be the last one. -/
theorem lastBrace?_ne_opening_iff_exists_run {text : List Char} :
    lastBrace? text ≠ some '\x7b' ↔
      '\x7b' ∉ text ∨ ∃ front run, text = front ++ '\x7d' :: run ∧ '\x7b' ∉ run := by
  constructor
  · intro outside
    cases nearest : lastBrace? text with
    | none => exact Or.inl (lastBrace?_eq_none_iff.mp nearest).1
    | some c =>
      rcases isBrace_of_lastBrace? nearest with rfl | rfl
      · exact absurd nearest outside
      · obtain ⟨-, behind, front, split, others⟩ := List.find?_eq_some_iff_append.mp nearest
        refine Or.inr ⟨front.reverse, behind.reverse, ?_, ?_⟩
        · rw [← List.reverse_reverse text, split]
          simp
        · intro opening
          exact absurd (others '\x7b' (List.mem_reverse.mp opening)) (by decide)
  · rintro (unopened | ⟨front, run, rfl, unopened⟩) opened
    · exact unopened (mem_of_lastBrace? opened)
    · rw [lastBrace?_append_closing] at opened
      cases nearest : lastBrace? run with
      | none =>
        rw [nearest] at opened
        cases opened
      | some c =>
        rw [nearest] at opened
        cases opened
        exact unopened (mem_of_lastBrace? nearest)

namespace Context

theorem spells_outsidePieces {word text : List Char} :
    Spells (outsidePieces word) text ↔ ∃ run, text = run ++ word ∧ '\x7b' ∉ run := by
  unfold outsidePieces notOpening
  simp only [spells_many_bne, spells_literal, spells_nil]
  constructor
  · rintro ⟨run, _, rfl, unopened, _, rfl, rfl⟩
    exact ⟨run, by simp, unopened⟩
  · rintro ⟨run, rfl, unopened⟩
    exact ⟨run, word, rfl, unopened, [], by simp, rfl⟩

/-- A word is outside of the actions of a line exactly if one of its occurrences is. -/
theorem outside_holds_iff {line word : String} :
    outsideAction.holds line word = true ↔
      ∃ before after, line.toList = before ++ word.toList ++ after ∧
        lastBrace? before ≠ some '\x7b' := by
  simp only [holds, Bool.or_eq_true, matchesAtStart_iff, matchesAnywhere_iff, spells_literal,
    spells_outsidePieces, lastBrace?_ne_opening_iff_exists_run]
  constructor
  · rintro (⟨_, after, split, run, rfl, unopened⟩ |
      ⟨front, _, after, split, _, rfl, run, rfl, unopened⟩)
    · exact ⟨run, after, split, Or.inl unopened⟩
    · exact ⟨front ++ '\x7d' :: run, after, by simpa using split, Or.inr ⟨front, run, rfl, unopened⟩⟩
  · rintro ⟨before, after, split, unopened | ⟨front, run, rfl, unopened⟩⟩
    · exact Or.inl ⟨_, after, split, before, rfl, unopened⟩
    · exact Or.inr ⟨front, _, after, by simpa using split, _, rfl, run, rfl, unopened⟩

/-- What the test for a place outside of the actions means: some occurrence of the word, taken
literally, has a closing brace as the nearest one to its left, or no brace at all. So it holds of a
word at a cursor that stands there, and text behind the line cannot undo it. -/
theorem outside_context_nearest_brace (line word : String) :
    (outsideAction.holds line word = true ↔
      ∃ before after : String, line = before ++ word ++ after ∧
        (lastBrace? before.toList = some '\x7d' ∨
          '\x7b' ∉ before.toList ∧ '\x7d' ∉ before.toList)) ∧
    (∀ (document : Document) (position : Position) (range : Range),
      document.line position.line = some line → document.wordAt position = some (word, range) →
      ∃ before after, StandsAt line.toList word.toList range before after ∧
        (lastBrace? before ≠ some '\x7b' → outsideAction.holds line word = true)) ∧
    ∀ more : String, outsideAction.holds line word = true →
      outsideAction.holds (line ++ more) word = true := by
  refine ⟨?_, ?_, ?_⟩
  · simp only [outside_holds_iff, lastBrace?_ne_opening_iff]
    constructor
    · rintro ⟨before, after, split, outside⟩
      refine ⟨.ofList before, .ofList after, ?_, by simpa using outside⟩
      apply String.toList_injective
      simpa using split
    · rintro ⟨before, after, rfl, outside⟩
      exact ⟨before.toList, after.toList, by simp, outside⟩
  · intro document position range present atWord
    obtain ⟨-, -, _, before, after, found, place⟩ := Document.exists_standsAt_of_wordAt atWord
    cases present.symm.trans found
    refine ⟨before, after, place, ?_⟩
    intro outside
    exact outside_holds_iff.mpr ⟨before, after, place.split, outside⟩
  · intro more holds
    obtain ⟨before, after, split, outside⟩ := outside_holds_iff.mp holds
    refine outside_holds_iff.mpr ⟨before, after ++ more.toList, ?_, outside⟩
    rw [String.toList_append, split, List.append_assoc]

/-- A key between two actions, whose name is used inside both of them as well. -/
theorem outside_context_nearest_brace_between :
    let line := "\x7b\x7b app \x7d\x7d app: \x7b\x7b app"
    Document.wordAt ⟨line, 1⟩ ⟨0, 12⟩ = some ("app", ⟨⟨0, 10⟩, ⟨0, 13⟩⟩) ∧
      outsideAction.holds line "app" = true ∧
      outsideAction.holds (line ++ " \x7d\x7d") "app" = true := by
  intro line
  have atWord : Document.wordAt ⟨line, 1⟩ ⟨0, 12⟩ = some ("app", ⟨⟨0, 10⟩, ⟨0, 13⟩⟩) := by
    decide +kernel
  obtain ⟨-, ofWord, extended⟩ := outside_context_nearest_brace line "app"
  obtain ⟨before, after, place, holds⟩ := ofWord ⟨line, 1⟩ ⟨0, 12⟩ _ (by decide +kernel) atWord
  have length : some 10 = some before.length := by
    rw [← place.boundary?_start]
    decide +kernel
  have beforeEq : before = line.toList.take 10 := by
    rw [Option.some.inj length, place.split, List.append_assoc, List.take_left]
  have outside := holds (by rw [beforeEq]; decide +kernel)
  exact ⟨atWord, outside, extended " \x7d\x7d" outside⟩

end Context

end TemplateHover
