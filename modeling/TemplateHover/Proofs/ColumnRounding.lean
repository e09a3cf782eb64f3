import Mathlib.Order.Bounds.Basic
import TemplateHover.Document
import TemplateHover.Proofs.Columns

namespace TemplateHover

variable {line : List Char} {column units : UInt32} {width index b k : Nat}

theorem toNat_saturatingAdd_eq_min (a b : UInt32) :
    (saturatingAdd a b).toNat = min (a.toNat + b.toNat) (UInt32.size - 1) := by
  by_cases bounded : a.toNat + b.toNat < UInt32.size
  · rw [toNat_saturatingAdd bounded]
    omega
  · have last : (UInt32.ofNat (UInt32.size - 1)).toNat = UInt32.size - 1 := by decide
    rw [saturatingAdd, if_neg bounded, last]
    omega

/-- A counter of 32 bits that shows a width as far as it can. -/
def Shows (units : UInt32) (width : Nat) : Prop :=
  units.toNat = min width (UInt32.size - 1)

namespace Shows

theorem zero : Shows 0 0 :=
  rfl

/-- No column lies behind the last one that the counter can show, so a comparison with a column never
sees that the counter stands still. -/
theorem le_iff (shown : Shows units width) (column : UInt32) :
    column ≤ units ↔ column.toNat ≤ width := by
  have inRange := column.toNat_lt_size
  unfold Shows at shown
  rw [UInt32.le_iff_toNat_le, shown]
  omega

theorem add (shown : Shows units width) (c : Char) :
    Shows (saturatingAdd units (UInt32.ofNat (unitCount c))) (width + unitCount c) := by
  have short := unitCount_le_two c
  have small : (UInt32.ofNat (unitCount c)).toNat = unitCount c :=
    UInt32.toNat_ofNat_of_lt' (Nat.lt_of_le_of_lt short (by decide))
  unfold Shows at shown ⊢
  rw [toNat_saturatingAdd_eq_min, small, shown]
  omega

end Shows

theorem boundaryFrom?_eq_none_iff {rest : List Char} (shown : Shows units width) :
    boundaryFrom? column rest index units = none ↔
      width + (utf16 rest).length < column.toNat := by
  have empty : (utf16 []).length = 0 := rfl
  fun_induction boundaryFrom? column rest index units generalizing width with
  | case1 index units reached =>
    have within := (shown.le_iff column).mp reached
    simp only [reduceCtorEq, false_iff]
    omega
  | case2 index units ahead =>
    have behind := mt (shown.le_iff column).mpr ahead
    simp only [true_iff]
    omega
  | case3 c rest index units reached =>
    have within := (shown.le_iff column).mp reached
    simp only [reduceCtorEq, false_iff]
    omega
  | case4 c rest index units ahead ih =>
    refine (ih (shown.add c)).trans ?_
    rw [length_utf16_cons]
    omega

theorem index_le_of_boundaryFrom? {rest : List Char}
    (found : boundaryFrom? column rest index units = some b) : index ≤ b := by
  fun_induction boundaryFrom? column rest index units with
  | case1 index units reached => exact Nat.le_of_eq (Option.some.inj found)
  | case2 index units ahead => cases found
  | case3 c rest index units reached => exact Nat.le_of_eq (Option.some.inj found)
  | case4 c rest index units ahead ih =>
    have later := ih found
    omega

/-- The walk stops at the first boundary at or behind the column. Which boundaries lie there is seen
from the widths alone, however wide the line is. -/
theorem le_iff_of_boundaryFrom? {rest : List Char} (shown : Shows units width)
    (found : boundaryFrom? column rest index units = some b) (k : Nat) :
    b ≤ index + k ↔ column.toNat ≤ width + (utf16 (rest.take k)).length := by
  fun_induction boundaryFrom? column rest index units generalizing width k with
  | case1 index units reached =>
    have within := (shown.le_iff column).mp reached
    have here := Option.some.inj found
    omega
  | case2 index units ahead => cases found
  | case3 c rest index units reached =>
    have within := (shown.le_iff column).mp reached
    have here := Option.some.inj found
    omega
  | case4 c rest index units ahead ih =>
    cases k with
    | zero =>
      -- the character starts before the column, and the walk does not come back
      have behind := mt (shown.le_iff column).mpr ahead
      have later := index_le_of_boundaryFrom? found
      have start : (utf16 ((c :: rest).take 0)).length = 0 := rfl
      omega
    | succ k =>
      have next := ih (shown.add c) found k
      rw [List.take_succ_cons, length_utf16_cons]
      omega

theorem boundary?_eq_none_iff :
    boundary? line column = none ↔ (utf16 line).length < column.toNat := by
  rw [boundary?, boundaryFrom?_eq_none_iff Shows.zero, Nat.zero_add]

theorem exists_boundary? (within : column.toNat ≤ (utf16 line).length) :
    ∃ b, boundary? line column = some b := by
  rw [← Option.ne_none_iff_exists', ne_eq, boundary?_eq_none_iff]
  omega

theorem toNat_le_of_boundary? (found : boundary? line column = some b) :
    column.toNat ≤ (utf16 line).length := by
  have present : boundary? line column ≠ none := by
    rw [found]
    exact Option.some_ne_none b
  exact Nat.not_lt.mp (mt boundary?_eq_none_iff.mpr present)

/-- Boundaries and columns are adjoint: a boundary comes at or behind the one of a column exactly if
its own column comes at or behind that column. -/
theorem boundary?_le_iff (found : boundary? line column = some b) (k : Nat) :
    b ≤ k ↔ column.toNat ≤ (utf16 (line.take k)).length := by
  have stops := le_iff_of_boundaryFrom? Shows.zero found k
  omega

theorem boundary?_le_length (found : boundary? line column = some b) : b ≤ line.length := by
  rw [boundary?_le_iff found, List.take_length]
  exact toNat_le_of_boundary? found

theorem boundary?_eq_some_iff : boundary? line column = some b ↔
    IsLeast {k | k ≤ line.length ∧ column.toNat ≤ (utf16 (line.take k)).length} b := by
  have least {b : Nat} (found : boundary? line column = some b) :
      IsLeast {k | k ≤ line.length ∧ column.toNat ≤ (utf16 (line.take k)).length} b := by
    refine ⟨⟨boundary?_le_length found, ?_⟩, ?_⟩
    · exact (boundary?_le_iff found b).mp (Nat.le_refl b)
    · rintro k ⟨-, reached⟩
      exact (boundary?_le_iff found k).mpr reached
  refine ⟨least, ?_⟩
  intro isLeast
  obtain ⟨within, reached⟩ := isLeast.1
  have narrower := length_utf16_take_le line within
  rw [List.take_length] at narrower
  obtain ⟨other, found⟩ := exists_boundary? (Nat.le_trans reached narrower)
  rw [found, (least found).unique isLeast]

theorem boundary?_mono (found : boundary? line column = some b) {other : UInt32}
    (before : other ≤ column) : ∃ a ≤ b, boundary? line other = some a := by
  have less := UInt32.le_iff_toNat_le.mp before
  have reached := (boundary?_le_iff found b).mp (Nat.le_refl b)
  obtain ⟨a, earlier⟩ := exists_boundary? (Nat.le_trans less (toNat_le_of_boundary? found))
  exact ⟨a, (boundary?_le_iff earlier b).mpr (Nat.le_trans less reached), earlier⟩

/-- A column inside a character moves to the end of it. -/
theorem boundary?_of_inside {before after : List Char} {c : Char}
    (afterStart : (utf16 before).length < column.toNat)
    (beforeStop : column.toNat ≤ (utf16 before).length + unitCount c) :
    boundary? (before ++ c :: after) column = some (before.length + 1) := by
  have split : before ++ c :: after = before ++ [c] ++ after := by
    rw [List.append_assoc, List.singleton_append]
  have reached : (utf16 (before ++ [c])).length = (utf16 before).length + unitCount c := by
    rw [length_utf16_append, length_utf16_cons]
    rfl
  obtain ⟨b, found⟩ : ∃ b, boundary? (before ++ c :: after) column = some b := by
    apply exists_boundary?
    rw [split, length_utf16_append, reached]
    omega
  have atStart := boundary?_le_iff found before.length
  have atStop := boundary?_le_iff found (before ++ [c]).length
  rw [List.take_left] at atStart
  rw [split, List.take_left, reached, List.length_append, List.length_singleton] at atStop
  rw [found]
  congr 1
  omega

theorem exists_boundary?_of_column? (within : k ≤ line.length)
    (bounded : (utf16 (line.take k)).length < UInt32.size) :
    ∃ column, column? line k = some column ∧ boundary? line column = some k := by
  obtain ⟨column, atColumn, measured⟩ := exists_column? within bounded
  have back := boundary?_append measured (line.drop k)
  rw [List.take_append_drop, List.length_take, Nat.min_eq_left within] at back
  exact ⟨column, atColumn, back⟩

/-- Where a boundary of a line lies in its bytes. -/
def byteOffset (line : List Char) (k : Nat) : Nat :=
  (String.ofList (line.take k)).utf8ByteSize

theorem byteOffset_lt_byteOffset {i j : Nat} (less : i < j) (within : j ≤ line.length) :
    byteOffset line i < byteOffset line j := by
  have between : (line.drop i).take (j - i) ≠ [] := by
    apply List.ne_nil_of_length_pos
    rw [List.length_take, List.length_drop]
    omega
  have positive : 0 < (String.ofList ((line.drop i).take (j - i))).utf8ByteSize := by
    rw [Nat.pos_iff_ne_zero, ne_eq, String.utf8ByteSize_eq_zero_iff, String.ofList_eq_empty_iff]
    exact between
  unfold byteOffset
  rw [← take_append_take_drop line (Nat.le_of_lt less), String.ofList_append,
    String.utf8ByteSize_append]
  omega

theorem byteOffset_le_byteOffset_iff {i j : Nat} (first : i ≤ line.length)
    (second : j ≤ line.length) : byteOffset line i ≤ byteOffset line j ↔ i ≤ j := by
  rcases Nat.lt_trichotomy i j with less | rfl | more
  · have apart := byteOffset_lt_byteOffset less second
    omega
  · omega
  · have apart := byteOffset_lt_byteOffset more first
    omega

theorem isValid_iff_exists_byteOffset {place : String.Pos.Raw} :
    place.IsValid (String.ofList line) ↔
      ∃ k ≤ line.length, place.byteIdx = byteOffset line k := by
  rw [String.Pos.Raw.isValid_ofList]
  constructor
  · rintro ⟨k, atPlace⟩
    refine ⟨min k line.length, Nat.min_le_right _ _, ?_⟩
    rw [atPlace, byteOffset, ← List.take_eq_take_min]
  · rintro ⟨k, -, atPlace⟩
    exact ⟨k, atPlace⟩

/-- Two columns of a line cut it in three: what comes before the first one, what lies between them
and what comes behind the second one. Both columns move to the next boundary. -/
structure Cuts (line : String) (first last : UInt32) (before text after : String) : Prop where
  split : line = before ++ text ++ after
  start : boundary? line.toList first = some before.length
  stop : boundary? line.toList last = some (before.length + text.length)

namespace Cuts

variable {line before text after : String} {first last : UInt32}

theorem of_boundaries {start stop : Nat} (atFirst : boundary? line.toList first = some start)
    (atLast : boundary? line.toList last = some stop) (ordered : start ≤ stop) :
    Cuts line first last (String.ofList (line.toList.take start))
      (String.ofList ((line.toList.drop start).take (stop - start)))
      (String.ofList (line.toList.drop stop)) := by
  have startWithin := boundary?_le_length atFirst
  have stopWithin := boundary?_le_length atLast
  refine ⟨?_, ?_, ?_⟩
  · rw [← String.ofList_append, ← String.ofList_append, take_append_take_drop _ ordered,
      List.take_append_drop, String.ofList_toList]
  · rw [atFirst, String.length_ofList, List.length_take, Nat.min_eq_left startWithin]
  · rw [atLast, String.length_ofList, String.length_ofList, List.length_take, List.length_take,
      List.length_drop]
    congr 1
    omega

theorem text_eq (cut : Cuts line first last before text after) :
    String.ofList ((line.toList.drop before.length).take text.length) = text := by
  rw [cut.split, String.toList_append, String.toList_append, List.append_assoc,
    ← String.length_toList, ← String.length_toList, List.drop_left, List.take_left,
    String.ofList_toList]

/-- Where one cut ends another one may start, and both together are a cut. -/
theorem append {middle : UInt32} {front next back : String}
    (left : Cuts line first middle before text after)
    (right : Cuts line middle last front next back) :
    Cuts line first last before (text ++ next) back := by
  have meet : front.toList.length = (before ++ text).toList.length := by
    rw [String.length_toList, String.length_toList, String.length_append]
    exact Option.some.inj (right.start.symm.trans left.stop)
  have same : front.toList ++ (next ++ back).toList = (before ++ text).toList ++ after.toList := by
    rw [← String.toList_append, ← String.toList_append, ← left.split, ← String.append_assoc,
      ← right.split]
  -- both sides end at the boundary of the middle column
  have joined : front = before ++ text :=
    String.toList_inj.mp (List.append_inj same meet).1
  refine ⟨?_, left.start, ?_⟩
  · rw [right.split, joined, ← String.append_assoc]
  · rw [right.stop, joined, String.length_append, String.length_append, Nat.add_assoc]

end Cuts

namespace Document

variable {document : Document} {range : Range} {line text : String}

/-- The text of a range is what its columns cut out of its line. -/
theorem textIn_eq_some_iff : document.textIn range = some text ↔
    range.start.line = range.stop.line ∧
      ∃ line before after, document.line range.start.line = some line ∧
        Cuts line range.start.character range.stop.character before text after := by
  constructor
  · intro found
    unfold textIn at found
    split at found
    · rename_i single
      split at found
      · cases found
      · rename_i line present
        split at found
        · rename_i start stop atStart atStop
          split at found
          · rename_i ordered
            cases found
            exact ⟨single, line, _, _, present, .of_boundaries atStart atStop ordered⟩
          · cases found
        · cases found
    · cases found
  · rintro ⟨single, line, before, after, present, cut⟩
    simp only [textIn, if_pos single, present, cut.start, cut.stop,
      if_pos (Nat.le_add_right before.length text.length), Nat.add_sub_cancel_left, cut.text_eq]

theorem textIn_eq_none_iff : document.textIn range = none ↔
    range.start.line ≠ range.stop.line ∨ document.line range.start.line = none ∨
      ∃ line, document.line range.start.line = some line ∧
        ((utf16 line.toList).length < range.start.character.toNat ∨
          (utf16 line.toList).length < range.stop.character.toNat ∨
          ∃ start stop, boundary? line.toList range.start.character = some start ∧
            boundary? line.toList range.stop.character = some stop ∧ stop < start) := by
  constructor
  · intro missing
    by_cases single : range.start.line = range.stop.line
    · right
      cases present : document.line range.start.line with
      | none => exact Or.inl rfl
      | some line =>
        refine Or.inr ⟨line, rfl, ?_⟩
        by_contra inside
        simp only [not_or, Nat.not_lt, not_exists, not_and] at inside
        obtain ⟨startWithin, stopWithin, inOrder⟩ := inside
        obtain ⟨start, atStart⟩ := exists_boundary? startWithin
        obtain ⟨stop, atStop⟩ := exists_boundary? stopWithin
        have cut := Cuts.of_boundaries atStart atStop (inOrder start stop atStart atStop)
        cases missing.symm.trans (textIn_eq_some_iff.mpr ⟨single, line, _, _, present, cut⟩)
    · exact Or.inl single
  · intro unfit
    rw [Option.eq_none_iff_forall_ne_some]
    intro text found
    obtain ⟨single, line, before, after, present, cut⟩ := textIn_eq_some_iff.mp found
    rcases unfit with apart | absent | ⟨other, atOther, pastStart | pastStop | reversed⟩
    · exact apart single
    · cases absent.symm.trans present
    · cases present.symm.trans atOther
      exact absurd pastStart (Nat.not_lt.mpr (toNat_le_of_boundary? cut.start))
    · cases present.symm.trans atOther
      exact absurd pastStop (Nat.not_lt.mpr (toNat_le_of_boundary? cut.stop))
    · cases present.symm.trans atOther
      obtain ⟨start, stop, atStart, atStop, less⟩ := reversed
      cases cut.start.symm.trans atStart
      cases cut.stop.symm.trans atStop
      omega

theorem textIn_append {number first middle last : UInt32} {left right : String}
    (atLeft : document.textIn ⟨⟨number, first⟩, ⟨number, middle⟩⟩ = some left)
    (atRight : document.textIn ⟨⟨number, middle⟩, ⟨number, last⟩⟩ = some right) :
    document.textIn ⟨⟨number, first⟩, ⟨number, last⟩⟩ = some (left ++ right) := by
  obtain ⟨-, line, before, _, present, leftCut⟩ := textIn_eq_some_iff.mp atLeft
  obtain ⟨-, _, _, after, again, rightCut⟩ := textIn_eq_some_iff.mp atRight
  cases present.symm.trans again
  exact textIn_eq_some_iff.mpr ⟨rfl, line, before, after, present, leftCut.append rightCut⟩

/-- Columns and boundaries of a line belong together, however wide the line is. A column leads to the
first boundary that is not before it, so one inside a surrogate pair leads to the end of its
character, and only a column behind the end of the line leads nowhere. Boundaries are found again by
their columns, and later columns lead to later boundaries. By their bytes the boundaries are the
places that split no character, in the same order. The text of a range is what lies between the
boundaries of its columns, and the texts of two ranges that meet make up the text of both. There is
none only if the range spans two lines, its line or one of its columns is missing, or its ends are
the wrong way round. -/
theorem columns_round_up (document : Document) (line : List Char) :
    (∀ column b, boundary? line column = some b ↔
      IsLeast {k | k ≤ line.length ∧ column.toNat ≤ (utf16 (line.take k)).length} b) ∧
    (∀ column, boundary? line column = none ↔ (utf16 line).length < column.toNat) ∧
    (∀ before c after column, line = before ++ c :: after →
      (utf16 before).length < column.toNat →
      column.toNat ≤ (utf16 before).length + unitCount c →
      boundary? line column = some (before.length + 1)) ∧
    (∀ k ≤ line.length, (utf16 (line.take k)).length < UInt32.size →
      ∃ column, column? line k = some column ∧ boundary? line column = some k) ∧
    (∀ column b, boundary? line column = some b →
      (∀ k other, column? line k = some other → (b ≤ k ↔ column ≤ other)) ∧
      ∀ other ≤ column, ∃ a ≤ b, boundary? line other = some a) ∧
    ((∀ place : String.Pos.Raw, place.IsValid (String.ofList line) ↔
        ∃ k ≤ line.length, place.byteIdx = byteOffset line k) ∧
      ∀ i ≤ line.length, ∀ j ≤ line.length,
        (byteOffset line i ≤ byteOffset line j ↔ i ≤ j)) ∧
    (∀ range text, document.textIn range = some text ↔
      range.start.line = range.stop.line ∧
        ∃ line before after, document.line range.start.line = some line ∧
          Cuts line range.start.character range.stop.character before text after) ∧
    (∀ number first middle last left right,
      document.textIn ⟨⟨number, first⟩, ⟨number, middle⟩⟩ = some left →
      document.textIn ⟨⟨number, middle⟩, ⟨number, last⟩⟩ = some right →
      document.textIn ⟨⟨number, first⟩, ⟨number, last⟩⟩ = some (left ++ right)) ∧
    ∀ range, document.textIn range = none ↔
      range.start.line ≠ range.stop.line ∨ document.line range.start.line = none ∨
        ∃ line, document.line range.start.line = some line ∧
          ((utf16 line.toList).length < range.start.character.toNat ∨
            (utf16 line.toList).length < range.stop.character.toNat ∨
            ∃ start stop, boundary? line.toList range.start.character = some start ∧
              boundary? line.toList range.stop.character = some stop ∧ stop < start) := by
  refine ⟨?_, ?_, ?_, ?_, ?_, ⟨?_, ?_⟩, ?_, ?_, ?_⟩
  · intro column b
    exact boundary?_eq_some_iff
  · intro column
    exact boundary?_eq_none_iff
  · rintro before c after column rfl afterStart beforeStop
    exact boundary?_of_inside afterStart beforeStop
  · intro k within bounded
    exact exists_boundary?_of_column? within bounded
  · intro column b found
    refine ⟨?_, ?_⟩
    · intro k other atColumn
      rw [boundary?_le_iff found, (column?_eq_some_iff.mp atColumn).2, UInt32.le_iff_toNat_le]
    · intro other before
      exact boundary?_mono found before
  · intro place
    exact isValid_iff_exists_byteOffset
  · intro i first j second
    exact byteOffset_le_byteOffset_iff first second
  · intro range text
    exact textIn_eq_some_iff
  · intro number first middle last left right atLeft atRight
    exact textIn_append atLeft atRight
  · intro range
    exact textIn_eq_none_iff

/-- The column inside the clef leads behind it. So the clef belongs to the range that ends there and
not to the one that starts there, and both ranges together have the whole line. -/
theorem columns_round_up_inside_clef :
    let document : Document := ⟨"key:\nü𝄞 x\n", 0⟩
    let line := ['ü', '𝄞', ' ', 'x']
    boundary? line 2 = some 2 ∧
      document.textIn ⟨⟨1, 0⟩, ⟨1, 2⟩⟩ = some "ü𝄞" ∧
      document.textIn ⟨⟨1, 2⟩, ⟨1, 5⟩⟩ = some " x" ∧
      document.textIn ⟨⟨1, 0⟩, ⟨1, 5⟩⟩ = some "ü𝄞 x" ∧
      (∃ column, column? line 2 = some column ∧ boundary? line column = some 2) ∧
      ∃ a ≤ 2, boundary? line 1 = some a := by
  intro document line
  obtain ⟨-, -, inside, again, later, -, -, joined, -⟩ := columns_round_up document line
  have left : document.textIn ⟨⟨1, 0⟩, ⟨1, 2⟩⟩ = some "ü𝄞" := by decide +kernel
  have right : document.textIn ⟨⟨1, 2⟩, ⟨1, 5⟩⟩ = some " x" := by decide +kernel
  have behind := inside ['ü'] '𝄞' [' ', 'x'] 2 rfl (by decide) (by decide)
  exact ⟨behind, left, right, joined 1 0 2 5 _ _ left right, again 2 (by decide) (by decide),
    (later 2 2 behind).2 1 (by decide)⟩

end Document

end TemplateHover
