import TemplateHover.Text.Word

namespace TemplateHover

/-- A character at which no word starts. The minus sign and the point separate words too, but a
number may start with them. -/
structure StartsNoWord (c : Char) : Prop where
  separator : isSeparator c = true
  notDigit : isDigit c = false
  notMinus : c ≠ '-'
  notPoint : c ≠ '.'

/-- A character at which no word starts and which is part of none, whatever stands around it. -/
structure SplitsWords (c : Char) : Prop extends StartsNoWord c where
  notWordChar : isWordChar c = false

theorem splitsWords_openingBrace : SplitsWords '\x7b' :=
  ⟨⟨by decide, by decide, by decide, by decide⟩, by decide +kernel⟩

theorem splitsWords_closingBrace : SplitsWords '\x7d' :=
  ⟨⟨by decide, by decide, by decide, by decide⟩, by decide +kernel⟩

theorem CharSet.forall_of_ranges (set : CharSet) (property : Char → Prop)
    (each : ∀ range ∈ set.ranges, ∀ code ∈ List.range' range.1 (range.2 + 1 - range.1),
      property (Char.ofNat code))
    {c : Char} (member : set.contains c = true) : property c := by
  obtain ⟨range, inSet, bounds⟩ := List.any_eq_true.mp member
  simp only [Bool.and_eq_true, decide_eq_true_eq] at bounds
  have listed : c.toNat ∈ List.range' range.1 (range.2 + 1 - range.1) := by
    rw [List.mem_range'_1]
    omega
  have holds := each range inSet c.toNat listed
  rwa [Char.ofNat_toNat] at holds

theorem startsNoWord_of_isBlank {c : Char} (blank : isBlank c = true) : StartsNoWord c := by
  obtain ⟨notDigit, notMinus, notPoint⟩ := CharSet.forall_of_ranges whiteSpace
    (fun c => isDigit c = false ∧ c ≠ '-' ∧ c ≠ '.') (by decide +kernel) blank
  exact ⟨by simp only [isSeparator, blank, Bool.or_true], notDigit, notMinus, notPoint⟩

theorem takeWhile_append_stop {kind : Char → Bool} {c : Char} (stops : kind c = false)
    (left right : List Char) : (left ++ c :: right).takeWhile kind = left.takeWhile kind := by
  induction left with
  | nil => simp [stops]
  | cons d left ih => simp only [List.cons_append, List.takeWhile_cons, ih]

/-- The text of a number: a sign or none, digits or none, a point, a digit and word characters. -/
def NumberShaped (text : List Char) : Prop :=
  ∃ sign digits digit tail, text = sign ++ digits ++ '.' :: digit :: tail ∧
    (sign = [] ∨ sign = ['-']) ∧ (∀ c ∈ digits, isDigit c = true) ∧ isDigit digit = true ∧
    ∀ c ∈ tail, isWordChar c = true

theorem NumberShaped.mem_cases {number : List Char} (shaped : NumberShaped number) {c : Char}
    (member : c ∈ number) : c = '-' ∨ c = '.' ∨ isDigit c = true ∨ isWordChar c = true := by
  obtain ⟨sign, digits, digit, tail, rfl, signed, numeric, isNumber, run⟩ := shaped
  simp only [List.mem_append, List.mem_cons] at member
  rcases member with (inSign | inDigits) | rfl | rfl | inTail
  · rcases signed with rfl | rfl
    · cases inSign
    · exact Or.inl (List.mem_singleton.mp inSign)
  · exact Or.inr (Or.inr (Or.inl (numeric c inDigits)))
  · exact Or.inr (Or.inl rfl)
  · exact Or.inr (Or.inr (Or.inl isNumber))
  · exact Or.inr (Or.inr (Or.inr (run c inTail)))

theorem take_sign_cases (text : List Char) :
    text.take (if text.head? = some '-' then 1 else 0) = [] ∨
      text.take (if text.head? = some '-' then 1 else 0) = ['-'] := by
  cases text with
  | nil => exact Or.inl List.take_nil
  | cons c text =>
    by_cases minus : c = '-'
    · exact Or.inr (by simp [minus])
    · exact Or.inl (by simp [minus])

theorem head?_dropWhile_eq_false {kind : Char → Bool} {text : List Char} :
    ∀ c ∈ (text.dropWhile kind).head?, kind c = false := by
  intro c first
  have stops := List.head?_dropWhile_not kind text
  rw [Option.mem_def.mp first] at stops
  exact stops

/-- The number that is read at the front of a text ends where no word character follows. -/
theorem exists_numberShaped_of_numberLength? {text : List Char} {length : Nat}
    (found : numberLength? text = some length) :
    ∃ number rest, text = number ++ rest ∧ NumberShaped number ∧
      (∀ c ∈ rest.head?, isWordChar c = false) ∧ length = number.length := by
  unfold numberLength? at found
  dsimp only at found
  have signed := take_sign_cases text
  generalize (if text.head? = some '-' then 1 else 0) = sign at found signed
  split at found
  · rename_i digit rest behind
    split at found
    · rename_i isNumber
      have digits := List.prefix_iff_eq_take.mp
        (List.takeWhile_prefix (l := text.drop sign) isDigit)
      have front : text.take (sign + ((text.drop sign).takeWhile isDigit).length) =
          text.take sign ++ (text.drop sign).takeWhile isDigit := by
        rw [List.take_add, ← digits]
      have split : text = (text.take sign ++ (text.drop sign).takeWhile isDigit ++
          '.' :: digit :: rest.takeWhile isWordChar) ++ rest.dropWhile isWordChar := by
        calc text
          _ = text.take (sign + ((text.drop sign).takeWhile isDigit).length) ++
              '.' :: digit :: rest := by rw [← behind, List.take_append_drop]
          _ = _ := by
            rw [front, List.append_assoc _ _ (rest.dropWhile isWordChar), List.cons_append,
              List.cons_append, List.takeWhile_append_dropWhile]
      refine ⟨_, _, split, ⟨_, _, digit, _, rfl, signed, ?_, isNumber, ?_⟩, ?_, ?_⟩
      · intro c member
        exact List.all_eq_true.mp List.all_takeWhile c member
      · intro c member
        exact List.all_eq_true.mp List.all_takeWhile c member
      · exact head?_dropWhile_eq_false
      · have shorter := congrArg List.length behind
        simp only [List.length_drop, List.length_cons] at shorter
        rw [← Option.some.inj found, ← front]
        simp only [List.length_append, List.length_cons]
        rw [List.length_take_of_le (by omega)]
        omega
    · cases found
  · cases found

theorem wordLength_le (text : List Char) : wordLength text ≤ text.length := by
  unfold wordLength
  split
  · rename_i length found
    obtain ⟨number, rest, rfl, -, -, rfl⟩ := exists_numberShaped_of_numberLength? found
    rw [List.length_append]
    omega
  · exact (List.takeWhile_prefix _).length_le

theorem numberLength?_append {c : Char} (splits : SplitsWords c) (left right : List Char) :
    numberLength? (left ++ c :: right) = numberLength? left := by
  have sameHead : ((left ++ c :: right).head? = some '-') = (left.head? = some '-') := by
    cases left with
    | nil => simp [splits.notMinus]
    | cons d left => rfl
  unfold numberLength?
  simp only [sameHead]
  generalize signEq : (if left.head? = some '-' then 1 else 0) = sign
  have signLe : sign ≤ left.length := by
    cases left with
    | nil => exact Nat.le_of_eq signEq.symm
    | cons d left =>
      rw [List.length_cons]
      split at signEq <;> omega
  rw [List.drop_append_of_le_length signLe, takeWhile_append_stop splits.notDigit]
  have digitsLe := (List.takeWhile_prefix (l := left.drop sign) isDigit).length_le
  rw [List.length_drop] at digitsLe
  rw [List.drop_append_of_le_length (by omega)]
  -- the point and the digit behind it must both come before the character that splits
  rcases left.drop (sign + ((left.drop sign).takeWhile isDigit).length) with _ | ⟨d, _ | ⟨e, tail⟩⟩
  · simp [splits.notPoint]
  · by_cases point : d = '.'
    · simp [point, splits.notDigit]
    · simp [point]
  · by_cases point : d = '.'
    · simp [point, takeWhile_append_stop splits.notWordChar]
    · simp [point]

theorem wordLength_append {c : Char} (splits : SplitsWords c) (left right : List Char) :
    wordLength (left ++ c :: right) = wordLength left := by
  unfold wordLength
  rw [numberLength?_append splits, takeWhile_append_stop (by rw [splits.separator]; rfl)]

theorem numberLength?_eq_none_of_stop {name : List Char} {c : Char} (noPoint : '.' ∉ name)
    (notDigit : isDigit c = false) (notMinus : c ≠ '-') (notPoint : c ≠ '.') (rest : List Char) :
    numberLength? (name ++ c :: rest) = none := by
  cases found : numberLength? (name ++ c :: rest) with
  | none => rfl
  | some length =>
    obtain ⟨_, more, split, ⟨sign, digits, digit, tail, rfl, signed, numerals, -, -⟩, -, -⟩ :=
      exists_numberShaped_of_numberLength? found
    have numeric : ∀ d ∈ sign ++ digits, d = '-' ∨ isDigit d = true := by
      intro d member
      rcases List.mem_append.mp member with inSign | inDigits
      · rcases signed with rfl | rfl
        · cases inSign
        · exact Or.inl (List.mem_singleton.mp inSign)
      · exact Or.inr (numerals d inDigits)
    rw [List.append_assoc _ _ more] at split
    -- the point can stand neither in the name, nor at its end, nor behind the character that stops
    obtain ⟨more, frontEq, tailEq⟩ | ⟨more, nameEq, tailEq⟩ := List.append_eq_append_iff.mp split
    · cases more with
      | nil => exact absurd (List.cons.inj tailEq).1 notPoint
      | cons d more =>
        obtain ⟨rfl, -⟩ := List.cons.inj tailEq
        rcases numeric c (by simp [frontEq]) with minus | digit
        · exact absurd minus notMinus
        · exact absurd digit (by simp [notDigit])
    · cases more with
      | nil => exact absurd (List.cons.inj tailEq).1.symm notPoint
      | cons d more =>
        obtain ⟨rfl, -⟩ := List.cons.inj tailEq
        exact absurd (by simp [nameEq]) noPoint

theorem numberLength?_point_eq_none {d : Char} (notDigit : isDigit d = false) (rest : List Char) :
    numberLength? ('.' :: d :: rest) = none := by
  have point : isDigit '.' = false := by decide
  simp [numberLength?, point, notDigit]

theorem wordLength_eq_zero_of_head {c : Char} {rest : List Char} (separator : isSeparator c = true)
    (noNumber : numberLength? (c :: rest) = none) : wordLength (c :: rest) = 0 := by
  simp [wordLength, noNumber, separator]

theorem StartsNoWord.wordLength_eq {c : Char} (starts : StartsNoWord c) (rest : List Char) :
    wordLength (c :: rest) = 0 := by
  apply wordLength_eq_zero_of_head starts.separator
  exact numberLength?_eq_none_of_stop List.not_mem_nil starts.notDigit starts.notMinus
    starts.notPoint rest

theorem wordsFrom_cons_of_zero {c : Char} {rest : List Char} (noWord : wordLength (c :: rest) = 0)
    (index : Nat) : wordsFrom index (c :: rest) = wordsFrom (index + 1) rest := by
  rw [wordsFrom, noWord]

theorem wordsFrom_of_wordLength {text : List Char} {length : Nat}
    (found : wordLength text = length + 1) (index : Nat) :
    wordsFrom index text =
      ⟨index, index + (length + 1)⟩ ::
        wordsFrom (index + (length + 1)) (text.drop (length + 1)) := by
  cases text with
  | nil => cases found
  | cons c rest => rw [wordsFrom, found, List.drop_succ_cons]

/-- The words of a text are those on either side of a character that splits words. -/
theorem wordsFrom_append {c : Char} (splits : SplitsWords c) (index : Nat) (left right : List Char) :
    wordsFrom index (left ++ c :: right) =
      wordsFrom index left ++ wordsFrom (index + left.length + 1) right := by
  fun_induction wordsFrom index left with
  | case1 index => exact wordsFrom_cons_of_zero (splits.wordLength_eq right) index
  | case2 index d left noWord ih =>
    have same := wordLength_append splits (d :: left) right
    rw [List.cons_append] at same ⊢
    rw [wordsFrom_cons_of_zero (same.trans noWord), ih, List.length_cons]
    congr 2
    omega
  | case3 index d left length found ih =>
    have same := wordLength_append splits (d :: left) right
    have within := wordLength_le (d :: left)
    rw [found, List.length_cons] at within
    rw [wordsFrom_of_wordLength (same.trans found), List.cons_append, List.drop_succ_cons,
      List.drop_append_of_le_length (by omega), ih, List.length_cons, List.length_drop,
      List.cons_append]
    congr 3
    omega

theorem wordsFrom_skip {skipped : List Char} (each : ∀ c ∈ skipped, StartsNoWord c) (index : Nat)
    (rest : List Char) :
    wordsFrom index (skipped ++ rest) = wordsFrom (index + skipped.length) rest := by
  induction skipped generalizing index with
  | nil => rfl
  | cons c skipped ih =>
    have noWord := (each c (by simp)).wordLength_eq (skipped ++ rest)
    rw [List.cons_append, wordsFrom_cons_of_zero noWord,
      ih fun d member => each d (List.mem_cons_of_mem c member), List.length_cons]
    congr 1
    omega

theorem mem_wordsFrom {index : Nat} {text : List Char} {span : Span}
    (member : span ∈ wordsFrom index text) :
    index ≤ span.start ∧ span.start < span.stop ∧ span.stop ≤ index + text.length := by
  fun_induction wordsFrom index text with
  | case1 index => cases member
  | case2 index c rest noWord ih =>
    have later := ih member
    rw [List.length_cons]
    omega
  | case3 index c rest length found ih =>
    have within := wordLength_le (c :: rest)
    rw [found] at within
    rcases List.mem_cons.mp member with rfl | behind
    · dsimp only
      omega
    · have later := ih behind
      rw [List.length_drop] at later
      rw [List.length_cons] at within ⊢
      omega

/-- A word holds no character that splits words. -/
theorem not_splitsWords_of_mem_take {text : List Char} {c : Char}
    (member : c ∈ text.take (wordLength text)) : ¬SplitsWords c := by
  intro splits
  unfold wordLength at member
  split at member
  · rename_i length found
    obtain ⟨number, rest, rfl, shaped, -, rfl⟩ := exists_numberShaped_of_numberLength? found
    rw [List.take_left] at member
    rcases shaped.mem_cases member with minus | point | numeral | wordChar
    · exact splits.notMinus minus
    · exact splits.notPoint point
    · cases splits.notDigit.symm.trans numeral
    · cases splits.notWordChar.symm.trans wordChar
  · rw [← List.prefix_iff_eq_take.mp (List.takeWhile_prefix _)] at member
    have solid := List.all_eq_true.mp List.all_takeWhile c member
    rw [splits.separator] at solid
    cases solid

theorem not_splitsWords_of_mem_span {index : Nat} {text : List Char} {span : Span} {c : Char}
    (member : span ∈ wordsFrom index text)
    (inside : c ∈ (text.drop (span.start - index)).take (span.stop - span.start)) :
    ¬SplitsWords c := by
  fun_induction wordsFrom index text with
  | case1 index => cases member
  | case2 index d rest noWord ih =>
    have bounds := mem_wordsFrom member
    rw [show span.start - index = span.start - (index + 1) + 1 by omega, List.drop_succ_cons]
      at inside
    exact ih member inside
  | case3 index d rest length found ih =>
    rcases List.mem_cons.mp member with rfl | behind
    · dsimp only at inside
      rw [Nat.sub_self, List.drop_zero, Nat.add_sub_cancel_left, ← Nat.succ_eq_add_one, ← found]
        at inside
      exact not_splitsWords_of_mem_take inside
    · have bounds := mem_wordsFrom behind
      rw [show span.start - index = length + (span.start - (index + (length + 1))) + 1 by omega,
        List.drop_succ_cons, ← List.drop_drop] at inside
      exact ih behind inside

end TemplateHover
