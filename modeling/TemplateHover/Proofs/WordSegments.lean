import TemplateHover.Proofs.WordPlace

namespace TemplateHover

theorem plain_of_isSeparator {c : Char} (separator : isSeparator c = true) :
    isDigit c = false ∧ isWordChar c = false := by
  rcases Bool.or_eq_true_iff.mp separator with listed | blank
  · have each : punctuation.all (fun c => !isDigit c && !isWordChar c) = true := by decide +kernel
    have plain := List.all_eq_true.mp each c (List.contains_iff_mem.mp listed)
    simpa using plain
  · exact CharSet.forall_of_ranges whiteSpace (fun c => isDigit c = false ∧ isWordChar c = false)
      (by decide +kernel) blank

theorem takeWhile_append_of_ended {kind : Char → Bool} {run rest : List Char}
    (each : ∀ c ∈ run, kind c = true) (ended : ∀ c ∈ rest.head?, kind c = false) :
    (run ++ rest).takeWhile kind = run := by
  have stops : rest.takeWhile kind = [] := by
    cases rest with
    | nil => rfl
    | cons c rest => simp [ended c rfl]
  rw [List.takeWhile_append_of_pos each, stops, List.append_nil]

/-- A number that no word character follows is read in full. -/
theorem numberLength?_append_of_numberShaped {number rest : List Char}
    (shaped : NumberShaped number) (ended : ∀ c ∈ rest.head?, isWordChar c = false) :
    numberLength? (number ++ rest) = some number.length := by
  obtain ⟨sign, digits, digit, tail, rfl, signed, numeric, isNumber, run⟩ := shaped
  have point : ∀ c ∈ ('.' :: digit :: (tail ++ rest)).head?, isDigit c = false := by
    rintro c same
    cases same
    decide
  have signLength : (if (sign ++ (digits ++ '.' :: digit :: (tail ++ rest))).head? = some '-'
      then 1 else 0) = sign.length := by
    rcases signed with rfl | rfl
    · cases digits with
      | nil => simp
      | cons d digits =>
        have notMinus : d ≠ '-' := by
          rintro rfl
          exact absurd (numeric '-' (by simp)) (by decide)
        simp [notMinus]
    · simp
  have split : sign ++ digits ++ '.' :: digit :: tail ++ rest =
      sign ++ (digits ++ '.' :: digit :: (tail ++ rest)) := by
    simp
  have behind : (sign ++ (digits ++ '.' :: digit :: (tail ++ rest))).drop
      (sign.length + digits.length) = '.' :: digit :: (tail ++ rest) := by
    rw [← List.drop_drop, List.drop_left, List.drop_left]
  unfold numberLength?
  simp only [split, signLength, List.drop_left, takeWhile_append_of_ended numeric point, behind,
    isNumber, if_true, takeWhile_append_of_ended run ended, Option.some_inj]
  simp only [List.length_append, List.length_cons]
  omega

theorem NumberShaped.append {number run : List Char} (shaped : NumberShaped number)
    (each : ∀ c ∈ run, isWordChar c = true) : NumberShaped (number ++ run) := by
  obtain ⟨sign, digits, digit, tail, rfl, signed, numeric, isNumber, wordChars⟩ := shaped
  refine ⟨sign, digits, digit, tail ++ run, by simp, signed, numeric, isNumber, ?_⟩
  intro c member
  rcases List.mem_append.mp member with inTail | inRun
  · exact wordChars c inTail
  · exact each c inRun

theorem numberLength?_eq_none_iff {text : List Char} :
    numberLength? text = none ↔ ¬∃ number, number <+: text ∧ NumberShaped number := by
  constructor
  · rintro none ⟨number, ⟨more, rfl⟩, shaped⟩
    -- the word characters behind the shape belong to the number
    have wordChars : ∀ c ∈ more.takeWhile isWordChar, isWordChar c = true :=
      List.all_eq_true.mp List.all_takeWhile
    have ended : ∀ c ∈ (more.dropWhile isWordChar).head?, isWordChar c = false :=
      head?_dropWhile_eq_false
    have found := numberLength?_append_of_numberShaped (shaped.append wordChars) ended
    rw [List.append_assoc, List.takeWhile_append_dropWhile, none] at found
    cases found
  · intro shapeless
    cases found : numberLength? text with
    | none => rfl
    | some length =>
      obtain ⟨number, rest, rfl, shaped, -, -⟩ := exists_numberShaped_of_numberLength? found
      exact absurd ⟨number, List.prefix_append number rest, shaped⟩ shapeless

/-- What a word at the front of a text is: a number up to where no word character follows, if a
number starts there, and otherwise a run up to where a separator follows. -/
structure IsWordBefore (word rest : List Char) : Prop where
  number : (∃ number, number <+: word ++ rest ∧ NumberShaped number) →
    NumberShaped word ∧ ∀ c ∈ rest.head?, isWordChar c = false
  run : (¬∃ number, number <+: word ++ rest ∧ NumberShaped number) →
    (∀ c ∈ word, isSeparator c = false) ∧ ∀ c ∈ rest.head?, isSeparator c = true

theorem isWordBefore_wordLength (text : List Char) :
    IsWordBefore (text.take (wordLength text)) (text.drop (wordLength text)) := by
  constructor
  · intro starts
    rw [List.take_append_drop] at starts
    cases found : numberLength? text with
    | none => exact absurd starts (numberLength?_eq_none_iff.mp found)
    | some length =>
      obtain ⟨number, rest, rfl, shaped, ended, rfl⟩ := exists_numberShaped_of_numberLength? found
      rw [wordLength, found]
      simp only [List.take_left, List.drop_left]
      exact ⟨shaped, ended⟩
  · intro shapeless
    rw [List.take_append_drop] at shapeless
    have taken := List.prefix_iff_eq_take.mp
      (List.takeWhile_prefix (l := text) fun c => !isSeparator c)
    have dropped : text.drop (text.takeWhile fun c => !isSeparator c).length =
        text.dropWhile fun c => !isSeparator c := by
      have split := List.takeWhile_append_dropWhile (p := fun c => !isSeparator c) (l := text)
      calc text.drop (text.takeWhile fun c => !isSeparator c).length
        _ = ((text.takeWhile fun c => !isSeparator c) ++ text.dropWhile fun c => !isSeparator c).drop
            (text.takeWhile fun c => !isSeparator c).length := by rw [split]
        _ = text.dropWhile fun c => !isSeparator c := List.drop_left
    rw [wordLength, numberLength?_eq_none_iff.mpr shapeless]
    simp only [dropped]
    rw [← taken]
    refine ⟨?_, ?_⟩
    · intro c member
      simpa using List.all_eq_true.mp List.all_takeWhile c member
    · intro c first
      simpa using head?_dropWhile_eq_false c first

theorem wordLength_pos {c : Char} {rest : List Char} (solid : isSeparator c = false) :
    0 < wordLength (c :: rest) := by
  unfold wordLength
  split
  · rename_i length found
    obtain ⟨_, _, -, ⟨sign, digits, digit, tail, rfl, -⟩, -, rfl⟩ :=
      exists_numberShaped_of_numberLength? found
    simp only [List.length_append, List.length_cons]
    omega
  · simp [solid]

theorem stop_eq_of_mem_wordsFrom {index : Nat} {text : List Char} {span : Span}
    (member : span ∈ wordsFrom index text) :
    span.stop = span.start + wordLength (text.drop (span.start - index)) := by
  fun_induction wordsFrom index text with
  | case1 index => cases member
  | case2 index c rest noWord ih =>
    have bounds := mem_wordsFrom member
    rw [ih member, show span.start - index = span.start - (index + 1) + 1 by omega,
      List.drop_succ_cons]
  | case3 index c rest length found ih =>
    rcases List.mem_cons.mp member with rfl | behind
    · dsimp only
      rw [Nat.sub_self, List.drop_zero, found]
    · have bounds := mem_wordsFrom behind
      rw [ih behind, show span.start - index = length + (span.start - (index + (length + 1))) + 1 by
        omega, List.drop_succ_cons, ← List.drop_drop]

theorem pairwise_wordsFrom (index : Nat) (text : List Char) :
    (wordsFrom index text).Pairwise fun left right => left.stop ≤ right.start := by
  fun_induction wordsFrom index text with
  | case1 index => exact .nil
  | case2 index c rest noWord ih => exact ih
  | case3 index c rest length found ih =>
    refine List.pairwise_cons.mpr ⟨?_, ih⟩
    intro span member
    exact (mem_wordsFrom member).1

/-- The search for words passes no character over that separates none. -/
theorem exists_mem_wordsFrom {index i : Nat} {text : List Char} {c : Char} (behind : index ≤ i)
    (present : text[i - index]? = some c) (solid : isSeparator c = false) :
    ∃ span ∈ wordsFrom index text, span.start ≤ i ∧ i < span.stop := by
  fun_induction wordsFrom index text with
  | case1 index => cases present
  | case2 index d rest noWord ih =>
    by_cases here : i = index
    · rw [here, Nat.sub_self, List.getElem?_cons_zero] at present
      cases present
      exact absurd noWord (Nat.ne_of_gt (wordLength_pos solid))
    · rw [show i - index = i - (index + 1) + 1 by omega, List.getElem?_cons_succ] at present
      exact ih (by omega) present
  | case3 index d rest length found ih =>
    by_cases inside : i < index + (length + 1)
    · exact ⟨_, List.mem_cons_self, behind, inside⟩
    · rw [show i - index = length + (i - (index + (length + 1))) + 1 by omega,
        List.getElem?_cons_succ, ← List.getElem?_drop] at present
      obtain ⟨span, member, holds⟩ := ih (by omega) present
      exact ⟨span, List.mem_cons_of_mem _ member, holds⟩

theorem isWordBefore_of_mem_words {line : List Char} {span : Span} (member : span ∈ words line) :
    IsWordBefore (span.text line) (line.drop span.stop) := by
  have stop := stop_eq_of_mem_wordsFrom member
  rw [Nat.sub_zero] at stop
  have shape := isWordBefore_wordLength (line.drop span.start)
  rw [List.drop_drop, ← stop] at shape
  rwa [Span.text, show span.stop - span.start = wordLength (line.drop span.start) by omega]

theorem eq_of_pairwise_of_overlap {spans : List Span} {i : Nat}
    (apart : spans.Pairwise fun left right => left.stop ≤ right.start) {first second : Span}
    (inFirst : first ∈ spans) (inSecond : second ∈ spans)
    (firstHolds : first.start ≤ i ∧ i < first.stop)
    (secondHolds : second.start ≤ i ∧ i < second.stop) : first = second := by
  induction apart with
  | nil => cases inFirst
  | @cons span spans before apart ih =>
    rcases List.mem_cons.mp inFirst with rfl | firstBehind
    · rcases List.mem_cons.mp inSecond with rfl | secondBehind
      · rfl
      · have order := before second secondBehind
        omega
    · rcases List.mem_cons.mp inSecond with rfl | secondBehind
      · have order := before first firstBehind
        omega
      · exact ih firstBehind secondBehind

theorem NumberShaped.count_point {number : List Char} (shaped : NumberShaped number) :
    number.count '.' = 1 := by
  obtain ⟨sign, digits, digit, tail, rfl, signed, numeric, isNumber, run⟩ := shaped
  have signPoint : '.' ∉ sign := by
    rcases signed with rfl | rfl <;> simp
  have digitsPoint : '.' ∉ digits := fun member => absurd (numeric '.' member) (by decide)
  have digitPoint : digit ≠ '.' := by
    rintro rfl
    exact absurd isNumber (by decide)
  have tailPoint : '.' ∉ tail := fun member => absurd (run '.' member) (by decide +kernel)
  simp [List.count_append, List.count_eq_zero.mpr, signPoint, digitsPoint, digitPoint, tailPoint]

theorem NumberShaped.exists_sign {number : List Char} (shaped : NumberShaped number) :
    ∃ sign body, number = sign ++ body ∧ (sign = [] ∨ sign = ['-']) ∧
      ∀ c ∈ body, isSeparator c = true → c = '.' := by
  obtain ⟨sign, digits, digit, tail, rfl, signed, numeric, isNumber, run⟩ := shaped
  refine ⟨sign, digits ++ '.' :: digit :: tail, by simp, signed, ?_⟩
  intro c member separator
  obtain ⟨notDigit, notWordChar⟩ := plain_of_isSeparator separator
  simp only [List.mem_append, List.mem_cons] at member
  rcases member with inDigits | point | rfl | inTail
  · cases notDigit.symm.trans (numeric c inDigits)
  · exact point
  · cases notDigit.symm.trans isNumber
  · cases notWordChar.symm.trans (run c inTail)

/-- The characters that have a meaning of their own in a pattern. -/
def metaCharacters : List Char :=
  ['\\', '.', '+', '*', '?', '(', ')', '|', '[', ']', '\x7b', '\x7d', '^', '$', '#', '&', '-', '~']

theorem isSeparator_of_mem_metaCharacters {c : Char} (member : c ∈ metaCharacters) :
    isSeparator c = true := by
  have each : metaCharacters.all isSeparator = true := by decide
  exact List.all_eq_true.mp each c member

/-- How a line is cut into words. They are not empty, follow each other without overlap, and hold
every character that is no separator. A word is a number wherever one starts, up to where no word
character follows, and otherwise a run up to the next separator. So the word at a cursor has no
separator in it, and escaping it for a pattern changes nothing, or it is a number, with a point and
perhaps a minus sign at its front as its only separators. -/
theorem words_segment_line (escape : String → String)
    (literal : ∀ text, (∀ c ∈ text.toList, c ∉ metaCharacters) → escape text = text) :
    (∀ text : List Char,
      (∀ span ∈ words text, span.start < span.stop ∧ span.stop ≤ text.length) ∧
      ((words text).Pairwise fun left right => left.stop ≤ right.start) ∧
      (∀ i c, text[i]? = some c → isSeparator c = false →
        ∃ span ∈ words text, (span.start ≤ i ∧ i < span.stop) ∧
          ∀ other ∈ words text, other.start ≤ i ∧ i < other.stop → other = span) ∧
      (∀ i c, text[i]? = some c → (∀ span ∈ words text, ¬(span.start ≤ i ∧ i < span.stop)) →
        isSeparator c = true) ∧
      ∀ span ∈ words text, IsWordBefore (span.text text) (text.drop span.stop)) ∧
    ∀ (document : Document) (position : Position) (word : String) (range : Range),
      document.wordAt position = some (word, range) →
      (∀ c ∈ word.toList, isSeparator c = false) ∧ escape word = word ∨
      NumberShaped word.toList ∧ word.toList.count '.' = 1 ∧
        ∃ sign body, word.toList = sign ++ body ∧ (sign = [] ∨ sign = ['-']) ∧
          ∀ c ∈ body, isSeparator c = true → c = '.' := by
  refine ⟨?_, ?_⟩
  · intro text
    have apart := pairwise_wordsFrom 0 text
    refine ⟨?_, apart, ?_, ?_, fun span member => isWordBefore_of_mem_words member⟩
    · intro span member
      have bounds := mem_wordsFrom member
      omega
    · intro i c present solid
      obtain ⟨span, member, holds⟩ := exists_mem_wordsFrom (Nat.zero_le i) present solid
      refine ⟨span, member, holds, ?_⟩
      intro other otherMember otherHolds
      exact eq_of_pairwise_of_overlap apart otherMember member otherHolds holds
    · intro i c present outside
      cases separator : isSeparator c with
      | true => rfl
      | false =>
        obtain ⟨span, member, holds⟩ := exists_mem_wordsFrom (Nat.zero_le i) present separator
        exact absurd holds (outside span member)
  · intro document position word range atWord
    obtain ⟨line, span, member, -, -, found, -⟩ :=
      Document.exists_span_of_wordRangeAt (Document.wordAt_eq_some_iff.mp atWord).1
    cases atWord.symm.trans found
    have shape := isWordBefore_of_mem_words member
    by_cases starts : ∃ number, number <+: span.text line.toList ++ line.toList.drop span.stop ∧
        NumberShaped number
    · have shaped := (shape.number starts).1
      rw [String.toList_ofList]
      exact Or.inr ⟨shaped, shaped.count_point, shaped.exists_sign⟩
    · have solid := (shape.run starts).1
      rw [← String.toList_ofList (l := span.text line.toList)] at solid
      refine Or.inl ⟨solid, literal _ ?_⟩
      intro c inWord special
      cases (solid c inWord).symm.trans (isSeparator_of_mem_metaCharacters special)

/-- Two numbers that touch each other behind a letter. A backslash before each character with a
meaning of its own leaves a word behind a clef as it is. -/
theorem words_segment_line_touching :
    let escape (text : String) : String :=
      .ofList (text.toList.flatMap fun c => if c ∈ metaCharacters then ['\\', c] else [c])
    let line := "a-1.5.5x 𝄞b"
    words line.toList = [⟨0, 1⟩, ⟨1, 5⟩, ⟨5, 8⟩, ⟨9, 11⟩] ∧
      Span.text ⟨1, 5⟩ line.toList = "-1.5".toList ∧
      IsWordBefore (Span.text ⟨1, 5⟩ line.toList) (line.toList.drop 5) ∧
      Document.wordAt ⟨line, 0⟩ ⟨0, 10⟩ = some ("𝄞b", ⟨⟨0, 9⟩, ⟨0, 12⟩⟩) ∧
      escape "𝄞b" = "𝄞b" := by
  intro escape line
  have literal (text : String) (plain : ∀ c ∈ text.toList, c ∉ metaCharacters) :
      escape text = text := by
    have each : text.toList.map (fun c => if c ∈ metaCharacters then ['\\', c] else [c]) =
        text.toList.map fun c => [c] :=
      List.map_congr_left fun c member => if_neg (plain c member)
    simp only [escape]
    rw [List.flatMap_def, each, ← List.flatMap_def, List.flatMap_singleton', String.ofList_toList]
  have cut : words line.toList = [⟨0, 1⟩, ⟨1, 5⟩, ⟨5, 8⟩, ⟨9, 11⟩] := by decide +kernel
  have atWord : Document.wordAt ⟨line, 0⟩ ⟨0, 10⟩ = some ("𝄞b", ⟨⟨0, 9⟩, ⟨0, 12⟩⟩) := by
    decide +kernel
  obtain ⟨segments, ofCursor⟩ := words_segment_line escape literal
  have shape := (segments line.toList).2.2.2.2 ⟨1, 5⟩ (by simp [cut])
  refine ⟨cut, by decide +kernel, shape, atWord, ?_⟩
  rcases ofCursor ⟨line, 0⟩ ⟨0, 10⟩ "𝄞b" _ atWord with ⟨-, same⟩ | ⟨-, points, -⟩
  · exact same
  · exact absurd points (by decide +kernel)

end TemplateHover
