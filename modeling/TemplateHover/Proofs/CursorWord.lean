import TemplateHover.Document

namespace TemplateHover.Document

theorem spanRange?_lines {number : UInt32} {line : List Char} {span : Span} {range : Range}
    (found : spanRange? number line span = some range) :
    range.start.line = number ∧ range.stop.line = number := by
  unfold spanRange? at found
  split at found
  · cases found
    exact ⟨rfl, rfl⟩
  · cases found

theorem wordRangeAt_lines {document : Document} {position : Position} {range : Range}
    (found : document.wordRangeAt position = some range) :
    range.start.line = position.line ∧ range.stop.line = position.line := by
  unfold wordRangeAt at found
  split at found
  · cases found
  · obtain ⟨span, _, holding⟩ := List.exists_of_findSome?_eq_some found
    unfold rangeHolding? at holding
    exact spanRange?_lines (Option.eq_some_of_filter_eq_some holding)

theorem exists_line_of_wordAt {document : Document} {position : Position} {word : String}
    {range : Range} (found : document.wordAt position = some (word, range)) :
    ∃ line, document.line position.line = some line := by
  cases present : document.line position.line with
  | some line => exact ⟨line, rfl⟩
  | none =>
    have missing : document.wordRangeAt position = none := by
      unfold wordRangeAt
      rw [present]
    unfold wordAt at found
    rw [missing] at found
    cases found

theorem wordRangeAt_congr {first second : Document} {position : Position}
    (same : first.line position.line = second.line position.line) :
    first.wordRangeAt position = second.wordRangeAt position := by
  unfold wordRangeAt
  rw [same]

theorem textIn_congr {first second : Document} {range : Range}
    (same : first.line range.start.line = second.line range.start.line) :
    first.textIn range = second.textIn range := by
  unfold textIn
  rw [same]

/-- The word at a position depends on the line of the cursor only. Its range leads back to that
line and to no other. -/
theorem wordAt_congr {first second : Document} {position : Position}
    (same : first.line position.line = second.line position.line) :
    first.wordAt position = second.wordAt position := by
  unfold wordAt
  rw [wordRangeAt_congr same]
  cases found : second.wordRangeAt position with
  | none => rfl
  | some range =>
    have atLine := (wordRangeAt_lines found).1
    have sameText : first.textIn range = second.textIn range := by
      apply textIn_congr
      rw [atLine]
      exact same
    simp only [sameText]

end TemplateHover.Document
