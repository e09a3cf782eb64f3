import TemplateHover.Proofs.Columns
import TemplateHover.Proofs.CursorWord
import TemplateHover.Proofs.WordCuts

namespace TemplateHover

/-- The characters that a span takes from its line. -/
def Span.text (span : Span) (line : List Char) : List Char :=
  (line.drop span.start).take (span.stop - span.start)

/-- The place of a word on its line: what comes before and behind it, and the columns of its ends. -/
structure StandsAt (line word : List Char) (range : Range) (before after : List Char) : Prop where
  split : line = before ++ word ++ after
  start : (utf16 before).length = range.start.character.toNat
  stop : (utf16 (before ++ word)).length = range.stop.character.toNat

namespace StandsAt

variable {line word before after : List Char} {range : Range}

theorem start_lt_stop (place : StandsAt line word range before after) (nonempty : word ≠ []) :
    range.start.character < range.stop.character := by
  have positive := length_utf16_pos nonempty
  have stop := place.stop
  rw [length_utf16_append, place.start] at stop
  rw [UInt32.lt_iff_toNat_lt]
  omega

theorem column?_start (place : StandsAt line word range before after) :
    column? line before.length = some range.start.character := by
  rw [place.split, List.append_assoc]
  exact column?_append place.start _

theorem column?_stop (place : StandsAt line word range before after) :
    column? line (before.length + word.length) = some range.stop.character := by
  rw [place.split, ← List.length_append]
  exact column?_append place.stop _

theorem boundary?_start (place : StandsAt line word range before after) :
    boundary? line range.start.character = some before.length := by
  rw [place.split, List.append_assoc]
  exact boundary?_append place.start _

theorem boundary?_stop (place : StandsAt line word range before after) :
    boundary? line range.stop.character = some (before.length + word.length) := by
  rw [place.split, ← List.length_append]
  exact boundary?_append place.stop _

theorem of_columns {first last : Nat} (start : column? line first = some range.start.character)
    (stop : column? line last = some range.stop.character) (ordered : first ≤ last) :
    StandsAt line ((line.drop first).take (last - first)) range (line.take first)
      (line.drop last) := by
  have joined := take_append_take_drop line ordered
  refine ⟨?_, (column?_eq_some_iff.mp start).2, ?_⟩
  · rw [joined, List.take_append_drop]
  · rw [joined]
    exact (column?_eq_some_iff.mp stop).2

end StandsAt

namespace Document

theorem spanRange?_eq_some_iff {number : UInt32} {line : List Char} {span : Span} {range : Range} :
    spanRange? number line span = some range ↔
      column? line span.start = some range.start.character ∧
        column? line span.stop = some range.stop.character ∧
        range.start.line = number ∧ range.stop.line = number := by
  constructor
  · intro found
    obtain ⟨startLine, stopLine⟩ := spanRange?_lines found
    unfold spanRange? at found
    split at found
    · rename_i start stop startEq stopEq
      cases found
      exact ⟨startEq, stopEq, startLine, stopLine⟩
    · cases found
  · rintro ⟨startEq, stopEq, startLine, stopLine⟩
    obtain ⟨⟨_, _⟩, ⟨_, _⟩⟩ := range
    cases startLine
    cases stopLine
    simp only [spanRange?, startEq, stopEq]

theorem rangeHolding?_eq_some_iff {position : Position} {line : List Char} {span : Span}
    {range : Range} :
    rangeHolding? position line span = some range ↔
      column? line span.start = some range.start.character ∧
        column? line span.stop = some range.stop.character ∧
        range.start.line = position.line ∧ range.stop.line = position.line ∧
        range.start.character ≤ position.character ∧
        position.character ≤ range.stop.character := by
  simp only [rangeHolding?, Option.filter_eq_some_iff, Bool.and_eq_true, decide_eq_true_eq,
    spanRange?_eq_some_iff, and_assoc]

theorem wordAt_eq_some_iff {document : Document} {position : Position} {word : String}
    {range : Range} :
    document.wordAt position = some (word, range) ↔
      document.wordRangeAt position = some range ∧ document.textIn range = some word ∧
        word ≠ "" := by
  unfold wordAt
  constructor
  · intro found
    split at found
    · cases found
    · rename_i range holding
      split at found
      · cases found
      · rename_i text inRange
        split at found
        · cases found
        · rename_i nonempty
          cases found
          exact ⟨holding, inRange, by simpa using nonempty⟩
  · rintro ⟨holding, inRange, nonempty⟩
    simp [holding, inRange, nonempty]

/-- The text of a range is the word that stands there. -/
theorem textIn_of_standsAt {document : Document} {range : Range} {line : String}
    {word before after : List Char} (single : range.start.line = range.stop.line)
    (present : document.line range.start.line = some line)
    (place : StandsAt line.toList word range before after) :
    document.textIn range = some (String.ofList word) := by
  have cut : (line.toList.drop before.length).take
      (before.length + word.length - before.length) = word := by
    rw [place.split, List.append_assoc, List.drop_left, Nat.add_sub_cancel_left, List.take_left]
  simp only [textIn, if_pos single, present, place.boundary?_start, place.boundary?_stop,
    if_pos (Nat.le_add_right before.length word.length), cut]

/-- The range at a position belongs to the first word of its line that holds the column. -/
theorem wordRangeAt_eq_some_iff {document : Document} {position : Position} {range : Range} :
    document.wordRangeAt position = some range ↔
      ∃ line left span right, document.line position.line = some line ∧
        words line.toList = left ++ span :: right ∧
        rangeHolding? position line.toList span = some range ∧
        ∀ other ∈ left, rangeHolding? position line.toList other = none := by
  unfold wordRangeAt
  constructor
  · intro found
    split at found
    · cases found
    · rename_i line present
      obtain ⟨left, span, right, cut, holding, passed⟩ := List.findSome?_eq_some_iff.mp found
      exact ⟨line, left, span, right, present, cut, holding, passed⟩
  · rintro ⟨line, left, span, right, present, cut, holding, passed⟩
    rw [present]
    exact List.findSome?_eq_some_iff.mpr ⟨left, span, right, cut, holding, passed⟩

/-- A range that was found always leads back to a word: the one that it came from. -/
theorem exists_span_of_wordRangeAt {document : Document} {position : Position} {range : Range}
    (found : document.wordRangeAt position = some range) :
    ∃ line, ∃ span ∈ words line.toList, document.line position.line = some line ∧
      rangeHolding? position line.toList span = some range ∧
      document.wordAt position = some (String.ofList (span.text line.toList), range) ∧
      StandsAt line.toList (span.text line.toList) range (line.toList.take span.start)
        (line.toList.drop span.stop) := by
  obtain ⟨line, left, span, right, present, cut, holding, -⟩ := wordRangeAt_eq_some_iff.mp found
  have member : span ∈ words line.toList := by simp [cut]
  obtain ⟨start, stop, startLine, stopLine, -, -⟩ := rangeHolding?_eq_some_iff.mp holding
  have bounds := mem_wordsFrom member
  have place := StandsAt.of_columns start stop (by omega)
  have text := textIn_of_standsAt (startLine.trans stopLine.symm) (startLine ▸ present) place
  have nonempty : String.ofList (span.text line.toList) ≠ "" := by
    rw [ne_eq, String.ofList_eq_empty_iff, ← List.length_eq_zero_iff, Span.text, List.length_take,
      List.length_drop]
    omega
  exact ⟨line, span, member, present, holding, wordAt_eq_some_iff.mpr ⟨found, text, nonempty⟩, place⟩

/-- The word at a position stands on the line of the cursor, which lies between its two ends, and no
character of it splits words. -/
theorem exists_standsAt_of_wordAt {document : Document} {position : Position} {word : String}
    {range : Range} (found : document.wordAt position = some (word, range)) :
    (range.start.line = position.line ∧ range.stop.line = position.line ∧
      range.start.character ≤ position.character ∧ position.character ≤ range.stop.character) ∧
    (∀ c ∈ word.toList, ¬SplitsWords c) ∧
    ∃ line before after, document.line position.line = some line ∧
      StandsAt line.toList word.toList range before after := by
  obtain ⟨line, span, member, present, holding, atWord, place⟩ :=
    exists_span_of_wordRangeAt (wordAt_eq_some_iff.mp found).1
  cases found.symm.trans atWord
  rw [String.toList_ofList]
  obtain ⟨-, -, inside⟩ := rangeHolding?_eq_some_iff.mp holding
  refine ⟨inside, ?_, line, _, _, present, place⟩
  intro c inWord
  exact not_splitsWords_of_mem_span member inWord

/-- A cursor is on a word of its line if it lies between the ends of the word, and the words before
it end further left. -/
theorem wordAt_of_words {document : Document} {position : Position} {line : String} {range : Range}
    {name before after : List Char} {left right : List Span}
    (present : document.line position.line = some line) (nonempty : name ≠ [])
    (place : StandsAt line.toList name range before after)
    (cut : words line.toList =
      left ++ ⟨before.length, before.length + name.length⟩ :: right)
    (passed : ∀ span ∈ left, span.stop < before.length)
    (startLine : range.start.line = position.line) (stopLine : range.stop.line = position.line)
    (afterStart : range.start.character ≤ position.character)
    (beforeStop : position.character ≤ range.stop.character) :
    document.wordAt position = some (String.ofList name, range) := by
  have behind : ∀ span ∈ left, rangeHolding? position line.toList span = none := by
    intro span member
    cases atSpan : rangeHolding? position line.toList span with
    | none => rfl
    | some other =>
      obtain ⟨-, stop, -, -, -, beforeOther⟩ := rangeHolding?_eq_some_iff.mp atSpan
      have less := column?_lt_column? stop place.column?_start (passed span member)
      rw [UInt32.lt_iff_toNat_lt] at less
      rw [UInt32.le_iff_toNat_le] at beforeOther afterStart
      omega
  have holding : rangeHolding? position line.toList ⟨before.length, before.length + name.length⟩ =
      some range :=
    rangeHolding?_eq_some_iff.mpr ⟨place.column?_start, place.column?_stop, startLine, stopLine,
      afterStart, beforeStop⟩
  have atRange : document.wordRangeAt position = some range :=
    wordRangeAt_eq_some_iff.mpr ⟨line, left, _, right, present, cut, holding, behind⟩
  refine wordAt_eq_some_iff.mpr ⟨atRange, ?_, by simpa using nonempty⟩
  exact textIn_of_standsAt (startLine.trans stopLine.symm) (startLine ▸ present) place

end Document

end TemplateHover
