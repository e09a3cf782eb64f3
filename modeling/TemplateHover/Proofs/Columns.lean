import TemplateHover.Text.Utf16

namespace TemplateHover

theorem length_codeUnits (c : Char) : (codeUnits c).length = unitCount c := by
  unfold codeUnits unitCount
  split <;> rfl

theorem unitCount_pos (c : Char) : 0 < unitCount c := by
  unfold unitCount
  split <;> omega

theorem unitCount_le_two (c : Char) : unitCount c ≤ 2 := by
  unfold unitCount
  split <;> omega

theorem length_utf16_cons (c : Char) (rest : List Char) :
    (utf16 (c :: rest)).length = unitCount c + (utf16 rest).length := by
  rw [utf16, List.flatMap_cons, List.length_append, length_codeUnits, utf16]

theorem length_utf16_append (left right : List Char) :
    (utf16 (left ++ right)).length = (utf16 left).length + (utf16 right).length := by
  rw [utf16, List.flatMap_append, List.length_append, utf16, utf16]

theorem length_utf16_pos {text : List Char} (nonempty : text ≠ []) : 0 < (utf16 text).length := by
  cases text with
  | nil => exact absurd rfl nonempty
  | cons c rest =>
    have positive := unitCount_pos c
    rw [length_utf16_cons]
    omega

theorem column?_eq_some_iff {line : List Char} {k : Nat} {column : UInt32} :
    column? line k = some column ↔
      k ≤ line.length ∧ (utf16 (line.take k)).length = column.toNat := by
  unfold column?
  constructor
  · intro found
    dsimp only at found
    split at found
    · rename_i within
      split at found
      · cases found
        exact ⟨within, by rw [UInt32.toNat_ofNatLT]⟩
      · cases found
    · cases found
  · rintro ⟨within, width⟩
    have bounded : (utf16 (line.take k)).length < UInt32.size := width ▸ column.toNat_lt_size
    rw [if_pos within, dif_pos bounded, Option.some_inj]
    apply UInt32.toNat_inj.mp
    rw [UInt32.toNat_ofNatLT, width]

theorem column?_append {before : List Char} {column : UInt32}
    (width : (utf16 before).length = column.toNat) (rest : List Char) :
    column? (before ++ rest) before.length = some column := by
  rw [column?_eq_some_iff, List.take_left]
  exact ⟨by simp, width⟩

theorem take_append_take_drop (line : List Char) {i j : Nat} (ordered : i ≤ j) :
    line.take i ++ (line.drop i).take (j - i) = line.take j := by
  rw [← List.take_add]
  congr 1
  omega

theorem column?_lt_column? {line : List Char} {i j : Nat} {first second : UInt32}
    (atFirst : column? line i = some first) (atSecond : column? line j = some second)
    (less : i < j) : first < second := by
  obtain ⟨-, firstWidth⟩ := column?_eq_some_iff.mp atFirst
  obtain ⟨within, secondWidth⟩ := column?_eq_some_iff.mp atSecond
  have between : (line.drop i).take (j - i) ≠ [] := by
    apply List.ne_nil_of_length_pos
    rw [List.length_take, List.length_drop]
    omega
  have positive := length_utf16_pos between
  rw [← take_append_take_drop line (Nat.le_of_lt less), length_utf16_append, firstWidth] at secondWidth
  rw [UInt32.lt_iff_toNat_lt]
  omega

theorem length_utf16_take_le (line : List Char) {i j : Nat} (ordered : i ≤ j) :
    (utf16 (line.take i)).length ≤ (utf16 (line.take j)).length := by
  rw [← take_append_take_drop line ordered, length_utf16_append]
  omega

theorem exists_column? {line : List Char} {k : Nat} (within : k ≤ line.length)
    (bounded : (utf16 (line.take k)).length < UInt32.size) :
    ∃ column, column? line k = some column ∧ (utf16 (line.take k)).length = column.toNat := by
  have width : (UInt32.ofNat (utf16 (line.take k)).length).toNat = (utf16 (line.take k)).length :=
    UInt32.toNat_ofNat_of_lt' bounded
  exact ⟨_, column?_eq_some_iff.mpr ⟨within, width.symm⟩, width.symm⟩

theorem toNat_saturatingAdd {a b : UInt32} (bounded : a.toNat + b.toNat < UInt32.size) :
    (saturatingAdd a b).toNat = a.toNat + b.toNat := by
  rw [saturatingAdd, if_pos bounded, UInt32.toNat_add]
  exact Nat.mod_eq_of_lt bounded

/-- The walk along a line stops at the end of a text that is as wide as the column asks for. The
columns on the way are smaller, so the counter never saturates before that. -/
theorem boundaryFrom?_append {column units : UInt32} {before : List Char}
    (width : column.toNat = units.toNat + (utf16 before).length) (rest : List Char) (index : Nat) :
    boundaryFrom? column (before ++ rest) index units = some (index + before.length) := by
  induction before generalizing index units with
  | nil =>
    have reached : column ≤ units := UInt32.le_iff_toNat_le.mpr (Nat.le_of_eq width)
    cases rest <;> simp [boundaryFrom?, reached]
  | cons c before ih =>
    rw [length_utf16_cons] at width
    have positive := unitCount_pos c
    have short := unitCount_le_two c
    have inRange := column.toNat_lt_size
    have ahead : ¬column ≤ units := by
      rw [UInt32.le_iff_toNat_le]
      omega
    have small : (UInt32.ofNat (unitCount c)).toNat = unitCount c :=
      UInt32.toNat_ofNat_of_lt' (by omega)
    have next : (saturatingAdd units (UInt32.ofNat (unitCount c))).toNat =
        units.toNat + unitCount c := by
      rw [toNat_saturatingAdd (by omega), small]
    rw [List.cons_append, boundaryFrom?, if_neg ahead, ih (by omega), List.length_cons]
    congr 1
    omega

/-- The column at which a part of a line ends leads back to its end. -/
theorem boundary?_append {before : List Char} {column : UInt32}
    (width : (utf16 before).length = column.toNat) (rest : List Char) :
    boundary? (before ++ rest) column = some before.length := by
  have start : column.toNat = (0 : UInt32).toNat + (utf16 before).length := by
    simpa using width.symm
  rw [boundary?, boundaryFrom?_append start, Nat.zero_add]

end TemplateHover
