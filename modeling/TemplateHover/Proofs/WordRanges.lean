import TemplateHover.Proofs.WordSegments

namespace TemplateHover.Document

variable {document : Document} {position : Position} {line : String} {range : Range} {span : Span}
  {left right : List Span}

theorem exists_spanRange? {line : List Char} {stop : UInt32} (ordered : span.start ≤ span.stop)
    (atStop : column? line span.stop = some stop) (number : UInt32) :
    ∃ range, spanRange? number line span = some range ∧ range.stop = ⟨number, stop⟩ := by
  obtain ⟨within, width⟩ := column?_eq_some_iff.mp atStop
  have narrower := length_utf16_take_le line ordered
  have inRange := stop.toNat_lt_size
  obtain ⟨start, atStart, -⟩ := exists_column? (Nat.le_trans ordered within) (by omega)
  exact ⟨⟨⟨number, start⟩, ⟨number, stop⟩⟩,
    spanRange?_eq_some_iff.mpr ⟨atStart, atStop, rfl, rfl⟩, rfl⟩

theorem stop_le_start_of_cut {line : List Char} (cut : words line = left ++ span :: right)
    {earlier : Span} (member : earlier ∈ left) : earlier.stop ≤ span.start := by
  have apart := pairwise_wordsFrom 0 line
  rw [← words, cut, List.pairwise_append] at apart
  exact apart.2.2 earlier member span List.mem_cons_self

/-- A word is found again at every column that its range holds, unless an earlier word holds the
column as well. -/
theorem wordRangeAt_of_cut {column : UInt32} (present : document.line position.line = some line)
    (cut : words line.toList = left ++ span :: right)
    (holding : rangeHolding? position line.toList span = some range)
    (afterStart : range.start.character ≤ column) (beforeStop : column ≤ range.stop.character)
    (passed : ∀ earlier ∈ left, ∀ stop, column? line.toList earlier.stop = some stop →
      stop < column) :
    document.wordRangeAt ⟨position.line, column⟩ = some range := by
  obtain ⟨start, stop, startLine, stopLine, -, -⟩ := rangeHolding?_eq_some_iff.mp holding
  refine wordRangeAt_eq_some_iff.mpr ⟨line, left, span, right, present, cut, ?_, ?_⟩
  · exact rangeHolding?_eq_some_iff.mpr ⟨start, stop, startLine, stopLine, afterStart, beforeStop⟩
  · intro earlier member
    cases atEarlier : rangeHolding? ⟨position.line, column⟩ line.toList earlier with
    | none => rfl
    | some other =>
      obtain ⟨-, ends, -, -, -, before⟩ := rangeHolding?_eq_some_iff.mp atEarlier
      exact absurd (passed earlier member _ ends) (UInt32.not_lt.mpr before)

theorem wordRangeAt_of_column {column : UInt32} (found : document.wordRangeAt position = some range)
    (afterStart : range.start.character < column) (beforeStop : column ≤ range.stop.character) :
    document.wordRangeAt ⟨position.line, column⟩ = some range := by
  obtain ⟨line, left, span, right, present, cut, holding, -⟩ := wordRangeAt_eq_some_iff.mp found
  obtain ⟨start, -⟩ := rangeHolding?_eq_some_iff.mp holding
  refine wordRangeAt_of_cut present cut holding (UInt32.le_of_lt afterStart) beforeStop ?_
  intro earlier member stop ends
  have order := stop_le_start_of_cut cut member
  rcases Nat.lt_or_eq_of_le order with less | same
  · exact UInt32.lt_trans (column?_lt_column? ends start less) afterStart
  · rw [same, start] at ends
    cases ends
    exact afterStart

/-- At its first column a word is found again, unless another word ends right there. That one is
then found, for words are tried from left to right. -/
theorem wordRangeAt_start_cases (present : document.line position.line = some line)
    (cut : words line.toList = left ++ span :: right)
    (holding : rangeHolding? position line.toList span = some range) :
    (∃ previous ∈ words line.toList, ∃ other,
      spanRange? position.line line.toList previous = some other ∧ other.stop = range.start ∧
        document.wordRangeAt range.start = some other) ∨
    (∀ previous ∈ words line.toList, ∀ other,
      spanRange? position.line line.toList previous = some other → other.stop ≠ range.start) ∧
        document.wordRangeAt range.start = some range := by
  obtain ⟨start, stop, startLine, stopLine, afterStart, beforeStop⟩ :=
    rangeHolding?_eq_some_iff.mp holding
  have atStart : range.start = ⟨position.line, range.start.character⟩ := by
    rw [← startLine]
  by_cases met : ∃ previous ∈ words line.toList, ∃ other,
      spanRange? position.line line.toList previous = some other ∧ other.stop = range.start
  · obtain ⟨previous, member, other, itsRange, meets⟩ := met
    obtain ⟨otherStart, otherStop, otherStartLine, otherStopLine⟩ := spanRange?_eq_some_iff.mp itsRange
    rw [meets] at otherStop
    refine Or.inl ⟨previous, member, other, itsRange, meets, ?_⟩
    obtain ⟨before, after, otherCut⟩ := List.append_of_mem member
    have bounds := mem_wordsFrom member
    have less := column?_lt_column? otherStart otherStop bounds.2.1
    have otherHolding : rangeHolding? range.start line.toList previous = some other := by
      refine rangeHolding?_eq_some_iff.mpr ⟨otherStart, meets ▸ otherStop, ?_, ?_, ?_, ?_⟩
      · exact otherStartLine.trans startLine.symm
      · exact otherStopLine.trans startLine.symm
      · exact UInt32.le_of_lt less
      · rw [meets]
        exact UInt32.le_refl _
    refine wordRangeAt_of_cut (startLine ▸ present) otherCut otherHolding (UInt32.le_of_lt less) ?_ ?_
    · rw [meets]
      exact UInt32.le_refl _
    · intro earlier inBefore ends atEnds
      have order := stop_le_start_of_cut otherCut inBefore
      exact column?_lt_column? atEnds otherStop (by omega)
  · have apart : ∀ previous ∈ words line.toList, ∀ other,
        spanRange? position.line line.toList previous = some other → other.stop ≠ range.start := by
      intro previous member other itsRange meets
      exact met ⟨previous, member, other, itsRange, meets⟩
    refine Or.inr ⟨apart, ?_⟩
    rw [atStart]
    refine wordRangeAt_of_cut present cut holding (UInt32.le_refl _) ?_ ?_
    · exact UInt32.le_trans afterStart beforeStop
    · intro earlier inLeft ends atEnds
      have order := stop_le_start_of_cut cut inLeft
      rcases Nat.lt_or_eq_of_le order with less | same
      · exact column?_lt_column? atEnds start less
      · rw [same, start] at atEnds
        cases atEnds
        have bounds := mem_wordsFrom (show earlier ∈ words line.toList by simp [cut, inLeft])
        obtain ⟨other, itsRange, meets⟩ := exists_spanRange? (Nat.le_of_lt bounds.2.1)
          (same ▸ start) position.line
        exact absurd (meets.trans atStart.symm) (apart earlier (by simp [cut, inLeft]) other itsRange)

/-- Where all columns of a line exist, a position without a word lies between the ends of none. -/
theorem not_between_of_wordRangeAt_eq_none (present : document.line position.line = some line)
    (bounded : (utf16 line.toList).length < UInt32.size)
    (missing : document.wordRangeAt position = none) (member : span ∈ words line.toList) :
    ¬((utf16 (line.toList.take span.start)).length ≤ position.character.toNat ∧
      position.character.toNat ≤ (utf16 (line.toList.take span.stop)).length) := by
  rintro ⟨afterStart, beforeStop⟩
  have bounds := mem_wordsFrom member
  have width := length_utf16_take_le line.toList (show span.stop ≤ line.toList.length by omega)
  rw [List.take_length] at width
  have narrower := length_utf16_take_le line.toList (Nat.le_of_lt bounds.2.1)
  obtain ⟨start, atStart, startWidth⟩ := exists_column?
    (show span.start ≤ line.toList.length by omega) (by omega)
  obtain ⟨stop, atStop, stopWidth⟩ := exists_column?
    (show span.stop ≤ line.toList.length by omega) (by omega)
  have holding : rangeHolding? position line.toList span =
      some ⟨⟨position.line, start⟩, ⟨position.line, stop⟩⟩ := by
    refine rangeHolding?_eq_some_iff.mpr ⟨atStart, atStop, rfl, rfl, ?_, ?_⟩
    · exact UInt32.le_iff_toNat_le.mpr (startWidth ▸ afterStart)
    · exact UInt32.le_iff_toNat_le.mpr (stopWidth ▸ beforeStop)
  simp only [wordRangeAt, present, List.findSome?_eq_none_iff] at missing
  cases (missing span member).symm.trans holding

/-- Ranges of words lead back to their words and stay the same on the whole word. A range that is
found always has a word, which is the text of the cut that the range came from and as wide as the
range. Every column behind the first one of the range, be it inside a surrogate pair, gives the
range again; at the first one a word that ends right there comes first. Where all columns of the
line exist, a position without a range lies between the ends of no word. -/
theorem word_ranges_round_trip (document : Document) (position : Position) :
    (document.wordAt position).isSome = (document.wordRangeAt position).isSome ∧
    (∀ word range, document.wordAt position = some (word, range) →
      ∃ line, ∃ span ∈ words line.toList, document.line position.line = some line ∧
        rangeHolding? position line.toList span = some range ∧
        word.toList = span.text line.toList ∧
        range.start.character.toNat + (utf16 word.toList).length = range.stop.character.toNat) ∧
    (∀ range, document.wordRangeAt position = some range →
      (range.start.line = position.line ∧ range.stop.line = position.line ∧
        range.start.character ≤ position.character ∧
        position.character ≤ range.stop.character) ∧
      (∀ column, range.start.character < column → column ≤ range.stop.character →
        document.wordRangeAt ⟨position.line, column⟩ = some range) ∧
      ∃ line, document.line position.line = some line ∧
        ((∃ previous ∈ words line.toList, ∃ other,
          spanRange? position.line line.toList previous = some other ∧ other.stop = range.start ∧
            document.wordRangeAt range.start = some other) ∨
        (∀ previous ∈ words line.toList, ∀ other,
          spanRange? position.line line.toList previous = some other →
            other.stop ≠ range.start) ∧
          document.wordRangeAt range.start = some range)) ∧
    ∀ line, document.line position.line = some line →
      (utf16 line.toList).length < UInt32.size → document.wordRangeAt position = none →
      ∀ span ∈ words line.toList,
        ¬((utf16 (line.toList.take span.start)).length ≤ position.character.toNat ∧
          position.character.toNat ≤ (utf16 (line.toList.take span.stop)).length) := by
  refine ⟨?_, ?_, ?_, ?_⟩
  · cases found : document.wordRangeAt position with
    | none => simp [wordAt, found]
    | some range =>
      obtain ⟨_, _, _, _, _, atWord, _⟩ := exists_span_of_wordRangeAt found
      simp [atWord]
  · intro word range atWord
    obtain ⟨line, span, member, present, holding, found, place⟩ :=
      exists_span_of_wordRangeAt (wordAt_eq_some_iff.mp atWord).1
    cases atWord.symm.trans found
    rw [String.toList_ofList]
    refine ⟨line, span, member, present, holding, rfl, ?_⟩
    rw [← place.start, ← place.stop, length_utf16_append]
  · intro range found
    obtain ⟨line, left, span, right, present, cut, holding, -⟩ := wordRangeAt_eq_some_iff.mp found
    obtain ⟨-, -, inside⟩ := rangeHolding?_eq_some_iff.mp holding
    refine ⟨inside, ?_, line, present, wordRangeAt_start_cases present cut holding⟩
    intro column afterStart beforeStop
    exact wordRangeAt_of_column found afterStart beforeStop
  · intro line present bounded missing span member
    exact not_between_of_wordRangeAt_eq_none present bounded missing member

/-- A clef between two numbers that touch it. A column inside the clef finds it, its first column
finds the number before it, and behind the blank at the end nothing is found. -/
theorem word_ranges_round_trip_clef :
    let document : Document := ⟨"-1.5𝄞.5x  ", 0⟩
    let range : Range := ⟨⟨0, 4⟩, ⟨0, 6⟩⟩
    document.wordRangeAt ⟨0, 5⟩ = some range ∧
      document.wordRangeAt ⟨0, 6⟩ = some range ∧
      document.wordRangeAt ⟨0, 4⟩ = some ⟨⟨0, 0⟩, ⟨0, 4⟩⟩ ∧
      document.wordRangeAt ⟨0, 11⟩ = none ∧
      ∀ span ∈ words "-1.5𝄞.5x  ".toList,
        ¬((utf16 ("-1.5𝄞.5x  ".toList.take span.start)).length ≤ 11 ∧
          11 ≤ (utf16 ("-1.5𝄞.5x  ".toList.take span.stop)).length) := by
  intro document range
  have found : document.wordRangeAt ⟨0, 5⟩ = some range := by decide +kernel
  have missing : document.wordRangeAt ⟨0, 11⟩ = none := by decide +kernel
  obtain ⟨-, -, stable, -⟩ := word_ranges_round_trip document ⟨0, 5⟩
  obtain ⟨-, -, -, complete⟩ := word_ranges_round_trip document ⟨0, 11⟩
  obtain ⟨-, again, -⟩ := stable range found
  refine ⟨found, again 6 (by decide) (by decide), by decide +kernel, missing, ?_⟩
  exact complete "-1.5𝄞.5x  " (by decide +kernel) (by decide +kernel) missing

end TemplateHover.Document
