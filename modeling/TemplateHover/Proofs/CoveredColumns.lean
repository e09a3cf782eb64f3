import TemplateHover.Proofs.WordPlace
import TemplateHover.Yaml.KeySearch

namespace TemplateHover

theorem widthUpTo_eq (line : List Char) (k : Nat) :
    widthUpTo line k = (utf16 (line.take k)).length := by
  unfold widthUpTo
  induction line.take k with
  | nil => rfl
  | cons c rest ih => rw [List.foldr_cons, ih, length_utf16_cons]

theorem widthUpTo_of_length_le {line : List Char} {k : Nat} (past : line.length ≤ k) :
    widthUpTo line k = (utf16 line).length := by
  rw [widthUpTo_eq, List.take_of_length_le past]

theorem widthUpTo_min_length (line : List Char) (k : Nat) :
    widthUpTo line (min k line.length) = widthUpTo line k := by
  rw [widthUpTo_eq, widthUpTo_eq, ← List.take_eq_take_min]

theorem widthUpTo_mono (line : List Char) {i j : Nat} (ordered : i ≤ j) :
    widthUpTo line i ≤ widthUpTo line j := by
  rw [widthUpTo_eq, widthUpTo_eq]
  exact length_utf16_take_le line ordered

theorem toNat_of_column? {line : List Char} {k : Nat} {column : UInt32}
    (found : column? line k = some column) : column.toNat = widthUpTo line k := by
  rw [widthUpTo_eq, (column?_eq_some_iff.mp found).2]

/-- On a line that 32 bits can measure every boundary has a column, which is the width up to it. -/
theorem column?_eq_widthUpTo {line : List Char} {k : Nat} (within : k ≤ line.length)
    (bounded : (utf16 line).length < UInt32.size) :
    ∃ column, column? line k = some column ∧ column.toNat = widthUpTo line k := by
  have narrower := length_utf16_take_le line within
  rw [List.take_length] at narrower
  obtain ⟨column, found, -⟩ := exists_column? within (by omega)
  exact ⟨column, found, toNat_of_column? found⟩

theorem Document.line_eq_some_iff {document : Document} {number : UInt32} {line : String} :
    document.line number = some line ↔
      (lines document.text.toList)[number.toNat]? = some line.toList := by
  rw [Document.line, Option.map_eq_some_iff]
  constructor
  · rintro ⟨text, atLine, rfl⟩
    rw [String.toList_ofList, atLine]
  · intro atLine
    exact ⟨line.toList, atLine, String.ofList_toList⟩

namespace Yaml.Scalar

variable {scalar : Scalar} {texts : List (List Char)} {document : Document} {position : Position}
  {line : String} {range : Range}

/-- How many characters a scalar is taken to span: those of its value and of its quotes. -/
def width (scalar : Scalar) : Nat :=
  match scalar.style with
  | .singleQuoted | .doubleQuoted => scalar.value.length + 2
  | _ => scalar.value.length

theorem covers_iff_of_line {text : List Char} (onLine : scalar.mark.line = position.line.toNat + 1)
    (atLine : texts[position.line.toNat]? = some text) :
    scalar.covers texts position = true ↔
      widthUpTo text scalar.mark.column ≤ position.character.toNat ∧
        position.character.toNat ≤ widthUpTo text (scalar.mark.column + scalar.width) := by
  have spanned : scalar.value.length +
      (if scalar.style = .singleQuoted || scalar.style = .doubleQuoted then 2 else 0) =
        scalar.width := by
    unfold width
    cases scalar.style <;> rfl
  simp only [covers, onLine, atLine, spanned, decide_true, Bool.true_and, Bool.and_eq_true,
    decide_eq_true_eq]

theorem mark_of_covers (covered : scalar.covers texts position = true) :
    scalar.mark.line = position.line.toNat + 1 ∧
      ∃ text, texts[position.line.toNat]? = some text := by
  unfold covers at covered
  dsimp only at covered
  split at covered
  · cases covered
  · rename_i number onLine
    split at covered
    · cases covered
    · rename_i text atLine
      simp only [Bool.and_eq_true, decide_eq_true_eq] at covered
      obtain ⟨⟨same, -⟩, -⟩ := covered
      subst same
      exact ⟨onLine, text, atLine⟩

/-- A scalar covers a position if it is marked on its line, and the column lies between those of the
first and of the last boundary that the scalar spans. -/
theorem covers_iff_columns (bounded : ∀ line, document.line position.line = some line →
      (utf16 line.toList).length < UInt32.size) :
    scalar.covers (lines document.text.toList) position = true ↔
      scalar.mark.line = position.line.toNat + 1 ∧
      ∃ line first last, document.line position.line = some line ∧
        column? line.toList (min scalar.mark.column line.length) = some first ∧
        column? line.toList (min (scalar.mark.column + scalar.width) line.length) = some last ∧
        first ≤ position.character ∧ position.character ≤ last := by
  constructor
  · intro covered
    obtain ⟨onLine, text, atLine⟩ := mark_of_covers covered
    have present : document.line position.line = some (String.ofList text) := by
      rw [Document.line_eq_some_iff, String.toList_ofList, atLine]
    have fits := bounded _ present
    rw [String.toList_ofList] at fits
    obtain ⟨first, atFirst, firstWidth⟩ :=
      column?_eq_widthUpTo (Nat.min_le_right scalar.mark.column text.length) fits
    obtain ⟨last, atLast, lastWidth⟩ :=
      column?_eq_widthUpTo (Nat.min_le_right (scalar.mark.column + scalar.width) text.length) fits
    rw [widthUpTo_min_length] at firstWidth lastWidth
    obtain ⟨afterFirst, beforeLast⟩ := (covers_iff_of_line onLine atLine).mp covered
    refine ⟨onLine, String.ofList text, first, last, present, ?_, ?_, ?_, ?_⟩
    · rwa [← String.length_toList, String.toList_ofList]
    · rwa [← String.length_toList, String.toList_ofList]
    · exact UInt32.le_iff_toNat_le.mpr (firstWidth ▸ afterFirst)
    · exact UInt32.le_iff_toNat_le.mpr (lastWidth ▸ beforeLast)
  · rintro ⟨onLine, line, first, last, present, atFirst, atLast, afterFirst, beforeLast⟩
    rw [← String.length_toList] at atFirst atLast
    have firstWidth := toNat_of_column? atFirst
    have lastWidth := toNat_of_column? atLast
    rw [widthUpTo_min_length] at firstWidth lastWidth
    refine (covers_iff_of_line onLine (Document.line_eq_some_iff.mp present)).mpr ⟨?_, ?_⟩
    · exact firstWidth ▸ UInt32.le_iff_toNat_le.mp afterFirst
    · exact lastWidth ▸ UInt32.le_iff_toNat_le.mp beforeLast

/-- A scalar that spans all characters of a word covers the word, both ends included. -/
theorem covers_of_word_within (found : document.wordRangeAt position = some range)
    (present : document.line position.line = some line)
    (onLine : scalar.mark.line = position.line.toNat + 1)
    (within : ∀ k column, column? line.toList k = some column → range.start.character ≤ column →
      column < range.stop.character →
        scalar.mark.column ≤ k ∧ k < scalar.mark.column + scalar.width)
    {place : Position} (sameLine : place.line = position.line)
    (afterStart : range.start.character ≤ place.character)
    (beforeStop : place.character ≤ range.stop.character) :
    scalar.covers (lines document.text.toList) place = true := by
  obtain ⟨_, span, member, present', holding, -, -⟩ := Document.exists_span_of_wordRangeAt found
  cases present.symm.trans present'
  obtain ⟨atStart, atStop, -⟩ := Document.rangeHolding?_eq_some_iff.mp holding
  have bounds := mem_wordsFrom member
  have startWidth := toNat_of_column? atStart
  have stopWidth := toNat_of_column? atStop
  have firstWithin : scalar.mark.column ≤ span.start :=
    (within _ _ atStart (UInt32.le_refl _) (column?_lt_column? atStart atStop bounds.2.1)).1
  -- a word has a last character, whose column comes before the end of the range
  have lastWithin : span.stop - 1 < scalar.mark.column + scalar.width := by
    have narrower := length_utf16_take_le line.toList (show span.stop - 1 ≤ span.stop by omega)
    have inRange := range.stop.character.toNat_lt_size
    rw [stopWidth, widthUpTo_eq] at inRange
    obtain ⟨last, atLast, -⟩ := exists_column?
      (show span.stop - 1 ≤ line.toList.length by omega) (by omega)
    refine (within _ last atLast ?_ (column?_lt_column? atLast atStop (by omega))).2
    rw [UInt32.le_iff_toNat_le, startWidth, toNat_of_column? atLast]
    exact widthUpTo_mono _ (by omega)
  rw [UInt32.le_iff_toNat_le] at afterStart beforeStop
  have startAfter := widthUpTo_mono line.toList firstWithin
  have stopBefore := widthUpTo_mono line.toList
    (show span.stop ≤ scalar.mark.column + scalar.width by omega)
  rw [← sameLine] at onLine present
  refine (covers_iff_of_line onLine (Document.line_eq_some_iff.mp present)).mpr ⟨?_, ?_⟩ <;> omega

/-- Scalars and words are measured alike. The width of the first characters of a line is the column
at which the next one starts, and behind the end of the line it is that of the whole line. So a
scalar covers what lies between the columns of the boundaries that it spans, which stop at the end
of the line, and it covers every position of a word whose characters it spans. -/
theorem covers_agrees_with_columns (document : Document) (scalar : Scalar) (position : Position) :
    (∀ line : List Char,
      ((utf16 line).length < UInt32.size → ∀ k ≤ line.length,
        ∃ column, column? line k = some column ∧ column.toNat = widthUpTo line k) ∧
      ∀ k, line.length ≤ k → widthUpTo line k = (utf16 line).length) ∧
    ((∀ line, document.line position.line = some line →
        (utf16 line.toList).length < UInt32.size) →
      (scalar.covers (lines document.text.toList) position = true ↔
        scalar.mark.line = position.line.toNat + 1 ∧
        ∃ line first last, document.line position.line = some line ∧
          column? line.toList (min scalar.mark.column line.length) = some first ∧
          column? line.toList (min (scalar.mark.column + scalar.width) line.length) = some last ∧
          first ≤ position.character ∧ position.character ≤ last)) ∧
    ∀ line range, document.line position.line = some line →
      document.wordRangeAt position = some range →
      scalar.mark.line = position.line.toNat + 1 →
      (∀ k column, column? line.toList k = some column → range.start.character ≤ column →
        column < range.stop.character →
          scalar.mark.column ≤ k ∧ k < scalar.mark.column + scalar.width) →
      ∀ place : Position, place.line = position.line → range.start.character ≤ place.character →
        place.character ≤ range.stop.character →
        scalar.covers (lines document.text.toList) place = true := by
  refine ⟨?_, covers_iff_columns, ?_⟩
  · intro line
    refine ⟨?_, fun k past => widthUpTo_of_length_le past⟩
    intro bounded k within
    exact column?_eq_widthUpTo within bounded
  · intro line range present found onLine within place sameLine afterStart beforeStop
    exact covers_of_word_within found present onLine within sameLine afterStart beforeStop

/-- A key with a clef in it. The column inside the surrogate pair finds the word, the scalar of the
key covers the word up to its end, and the column behind that is free. -/
theorem covers_agrees_with_columns_clef :
    let document : Document := ⟨"ü𝄞x: '𝄞'", 0⟩
    let scalar : Scalar := ⟨"ü𝄞x", .plain, ⟨1, 0, 0⟩⟩
    document.wordRangeAt ⟨0, 2⟩ = some ⟨⟨0, 0⟩, ⟨0, 4⟩⟩ ∧
      scalar.covers (lines document.text.toList) ⟨0, 4⟩ = true ∧
      ¬scalar.covers (lines document.text.toList) ⟨0, 5⟩ = true := by
  intro document scalar
  have present : document.line 0 = some "ü𝄞x: '𝄞'" := by decide +kernel
  have found : document.wordRangeAt ⟨0, 2⟩ = some ⟨⟨0, 0⟩, ⟨0, 4⟩⟩ := by decide +kernel
  have atStop : column? "ü𝄞x: '𝄞'".toList 3 = some 4 := by decide +kernel
  have spanned : scalar.mark.column + scalar.width = 3 := by decide +kernel
  obtain ⟨-, -, word⟩ := covers_agrees_with_columns document scalar ⟨0, 2⟩
  obtain ⟨-, columns, -⟩ := covers_agrees_with_columns document scalar ⟨0, 5⟩
  refine ⟨found, ?_, ?_⟩
  · refine word _ _ present found rfl ?_ ⟨0, 4⟩ rfl (by decide) (by decide)
    intro k column atColumn _ below
    refine ⟨Nat.zero_le k, ?_⟩
    rw [spanned]
    rcases Nat.lt_trichotomy k 3 with less | rfl | more
    · exact less
    · cases atStop.symm.trans atColumn
      exact absurd below (by decide)
    · have above := column?_lt_column? atStop atColumn more
      exact absurd below (UInt32.not_lt.mpr (UInt32.le_of_lt above))
  · have bounded : ∀ line, document.line 0 = some line →
        (utf16 line.toList).length < UInt32.size := by
      intro line atLine
      cases present.symm.trans atLine
      decide +kernel
    intro covered
    obtain ⟨-, line, first, last, atLine, -, atLast, -, beforeLast⟩ := (columns bounded).mp covered
    cases present.symm.trans atLine
    cases atLast.symm.trans (show column? "ü𝄞x: '𝄞'".toList _ = some 4 by decide +kernel)
    exact absurd beforeLast (by decide)

end Yaml.Scalar

end TemplateHover
