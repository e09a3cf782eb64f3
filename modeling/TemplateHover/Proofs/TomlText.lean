import Mathlib.Data.List.Forall2
import TemplateHover.Toml.Parser

namespace TemplateHover.Toml

/-- A character that a text may hold as it is. -/
def IsVisible (c : Char) : Prop :=
  0x20 ≤ c.toNat ∧ c.toNat ≠ 0x7f

/-- A hexadecimal digit, in either case, and its value. -/
def IsHexDigit (c : Char) (digit : Nat) : Prop :=
  digit < 16 ∧ (c = digit.digitChar ∨ c = digit.digitChar.toUpper)

/-- Hexadecimal digits that write the code point of a character. -/
def WritesCode (digits : List Char) (c : Char) : Prop :=
  ∃ values, List.Forall₂ IsHexDigit digits values ∧ ofDigits 16 values = c.toNat

/-- The ways to write a character between the quotes of a string. The quote, the backslash and the
controls need an escape, and every character has escapes that give its code point. -/
inductive WrittenChar : Char → List Char → Prop
  | plain {c : Char} : IsVisible c → c ≠ '"' → c ≠ '\\' → WrittenChar c [c]
  | quote : WrittenChar '"' ['\\', '"']
  | backslash : WrittenChar '\\' ['\\', '\\']
  | backspace : WrittenChar '\x08' ['\\', 'b']
  | tab : WrittenChar '\t' ['\\', 't']
  | lineFeed : WrittenChar '\n' ['\\', 'n']
  | formFeed : WrittenChar '\x0c' ['\\', 'f']
  | carriageReturn : WrittenChar '\r' ['\\', 'r']
  | short {char a b c d : Char} : WritesCode [a, b, c, d] char →
      WrittenChar char ['\\', 'u', a, b, c, d]
  | long {char a b c d e f g h : Char} : WritesCode [a, b, c, d, e, f, g, h] char →
      WrittenChar char ['\\', 'U', a, b, c, d, e, f, g, h]

/-- The ways to write the characters of a string between its quotes. -/
inductive WrittenString : List Char → List Char → Prop
  | nil : WrittenString [] []
  | cons {c : Char} {chars written rest : List Char} : WrittenChar c written →
      WrittenString chars rest → WrittenString (c :: chars) (written ++ rest)

/-- Lines without statements: empty ones and comments. -/
inductive Gap : List Char → Prop
  | nil : Gap []
  | blank {rest : List Char} : Gap rest → Gap ('\n' :: rest)
  | comment {text rest : List Char} : (∀ c ∈ text, IsVisible c) → Gap rest →
      Gap ('#' :: (text ++ '\n' :: rest))

/-- The line of a repeated header. -/
def elementLine (name : String) : List Char :=
  '[' :: '[' :: (name.toList ++ [']', ']', '\n'])

/-- The line that gives a key a string, which is written as the text says. -/
def stringLine (key : String) (text : List Char) : List Char :=
  key.toList ++ ' ' :: '=' :: ' ' :: '"' :: (text ++ ['"', '\n'])

/-- A name that needs no quotes. -/
def IsBareName (name : String) : Prop :=
  name ≠ "" ∧ name.toList.all isBare = true

instance (name : String) : Decidable (IsBareName name) :=
  inferInstanceAs (Decidable (name ≠ "" ∧ name.toList.all isBare = true))

instance (c : Char) : Decidable (IsVisible c) :=
  inferInstanceAs (Decidable (0x20 ≤ c.toNat ∧ c.toNat ≠ 0x7f))

/-- Four hexadecimal digits of a number below `0x10000`. -/
def hexText (code : Nat) : List Char :=
  [code / 0x1000 % 16, code / 0x100 % 16, code / 0x10 % 16, code % 16].map Nat.digitChar

/-- Writes a character with the shortest escape it needs. -/
def writeChar (c : Char) : List Char :=
  match c with
  | '"' => ['\\', '"']
  | '\\' => ['\\', '\\']
  | '\x08' => ['\\', 'b']
  | '\t' => ['\\', 't']
  | '\n' => ['\\', 'n']
  | '\x0c' => ['\\', 'f']
  | '\r' => ['\\', 'r']
  | c => if IsVisible c then [c] else '\\' :: 'u' :: hexText c.toNat

/-- Writes the characters of a string between its quotes. -/
def writeString (string : String) : List Char :=
  string.toList.flatMap writeChar

theorem isControl_of_isVisible {c : Char} (visible : IsVisible c) : isControl c = false := by
  obtain ⟨low, notDelete⟩ := visible
  simp [isControl, notDelete, Nat.not_lt.mpr low]

theorem writesCode_hexText {c : Char} (small : c.toNat < 0x10000) :
    WritesCode (hexText c.toNat) c := by
  refine ⟨[c.toNat / 0x1000 % 16, c.toNat / 0x100 % 16, c.toNat / 0x10 % 16, c.toNat % 16], ?_, ?_⟩
  · rw [hexText, List.forall₂_map_left_iff]
    refine .cons ⟨?_, Or.inl rfl⟩ (.cons ⟨?_, Or.inl rfl⟩ (.cons ⟨?_, Or.inl rfl⟩
      (.cons ⟨?_, Or.inl rfl⟩ .nil))) <;> exact Nat.mod_lt _ (by decide)
  · simp only [ofDigits, List.foldl_cons, List.foldl_nil]
    omega

theorem writtenChar_writeChar (c : Char) : WrittenChar c (writeChar c) := by
  unfold writeChar
  split
  · exact .quote
  · exact .backslash
  · exact .backspace
  · exact .tab
  · exact .lineFeed
  · exact .formFeed
  · exact .carriageReturn
  · rename_i notQuote notBackslash _ _ _ _ _
    split
    · rename_i visible
      exact .plain visible notQuote notBackslash
    · rename_i control
      refine .short (writesCode_hexText ?_)
      unfold IsVisible at control
      omega

theorem writtenString_writeString (string : String) :
    WrittenString string.toList (writeString string) := by
  unfold writeString
  induction string.toList with
  | nil => exact .nil
  | cons c rest ih => exact .cons (writtenChar_writeChar c) ih

section Strings

variable {c meaning : Char} {digits : List Char} {values : List Nat}

theorem hexDigit?_of_isHexDigit {digit : Nat} (isDigit : IsHexDigit c digit) :
    hexDigit? c = some digit := by
  have each : ∀ digit < 16, hexDigit? digit.digitChar = some digit ∧
      hexDigit? digit.digitChar.toUpper = some digit := by decide
  obtain ⟨small, rfl | rfl⟩ := isDigit
  · exact (each digit small).1
  · exact (each digit small).2

theorem foldl_hexDigit? (each : List.Forall₂ IsHexDigit digits values) (start : Nat) :
    digits.foldl
        (fun value? c => value?.bind fun value => (hexDigit? c).map fun digit => value * 16 + digit)
        (some start) =
      some (values.foldl (fun value digit => value * 16 + digit) start) := by
  induction each generalizing start with
  | nil => rfl
  | cons first _ ih =>
    rw [List.foldl_cons, List.foldl_cons, Option.bind_some, hexDigit?_of_isHexDigit first,
      Option.map_some, ih]

theorem charOfHex?_of_writesCode (code : WritesCode digits c) : charOfHex? digits = some c := by
  obtain ⟨values, each, same⟩ := code
  have value : hexValue? digits = some c.toNat := by
    rw [hexValue?, foldl_hexDigit? each, ← same, ofDigits]
  have valid : c.toNat.isValidChar := c.valid
  rw [charOfHex?, value, Option.bind_some, if_pos valid, Char.ofNat_toNat]

theorem basicString_plain (notQuote : c ≠ '"') (notBackslash : c ≠ '\\')
    (visible : isControl c = false) (known rest : List Char) :
    basicString known (c :: rest) = basicString (c :: known) rest := by
  conv_lhs => unfold basicString
  split
  -- the other cases are about the end of the text, a quote or a backslash
  case h_6 first tail _ same =>
    cases same
    simp [visible, notBackslash]
  all_goals simp_all

theorem basicString_short {a b c d : Char} (code : charOfHex? [a, b, c, d] = some meaning)
    (known rest : List Char) :
    basicString known ('\\' :: 'u' :: a :: b :: c :: d :: rest) =
      basicString (meaning :: known) rest := by
  conv_lhs => unfold basicString
  simp only [code]

theorem basicString_long {a b c d e f g h : Char}
    (code : charOfHex? [a, b, c, d, e, f, g, h] = some meaning) (known rest : List Char) :
    basicString known ('\\' :: 'U' :: a :: b :: c :: d :: e :: f :: g :: h :: rest) =
      basicString (meaning :: known) rest := by
  conv_lhs => unfold basicString
  simp only [code]

theorem basicString_of_writtenChar {written : List Char} (char : WrittenChar c written)
    (known rest : List Char) :
    basicString known (written ++ rest) = basicString (c :: known) rest := by
  cases char with
  | plain visible notQuote notBackslash =>
    exact basicString_plain notQuote notBackslash (isControl_of_isVisible visible) known rest
  | short code => exact basicString_short (charOfHex?_of_writesCode code) known rest
  | long code => exact basicString_long (charOfHex?_of_writesCode code) known rest
  | quote | backslash | backspace | tab | lineFeed | formFeed | carriageReturn =>
    rfl

/-- A string that is written in any of these ways is read back. -/
theorem basicString_of_writtenString {chars text : List Char} (string : WrittenString chars text)
    (known rest : List Char) :
    basicString known (text ++ '"' :: rest) =
      some (String.ofList (known.reverse ++ chars), rest) := by
  induction string generalizing known with
  | nil =>
    rw [List.append_nil]
    rfl
  | cons char _ ih =>
    rw [List.append_assoc, basicString_of_writtenChar char, ih, List.reverse_cons,
      List.append_assoc, List.singleton_append]

theorem head?_ne_quote_of_writtenString {chars text : List Char}
    (string : WrittenString chars text) : text.head? ≠ some '"' := by
  cases string with
  | nil => simp
  | cons char rest =>
    cases char with
    | plain _ notQuote _ => simpa using notQuote
    | quote | backslash | backspace | tab | lineFeed | formFeed | carriageReturn | short | long =>
      simp

/-- No written string looks like the quotes of a string of several lines. -/
theorem readValue_of_writtenString {value : String} {text : List Char}
    (string : WrittenString value.toList text) (rest : List Char) :
    readValue ('"' :: (text ++ '"' :: '\n' :: rest)) = some (.string value, '\n' :: rest) := by
  have read : readString ('"' :: (text ++ '"' :: '\n' :: rest)) =
      basicString [] (text ++ '"' :: '\n' :: rest) := by
    have single := head?_ne_quote_of_writtenString string
    match text, single with
    | [], _ => rfl
    | c :: text, single =>
      rw [List.cons_append, readString]
      intro more same
      exact single (congrArg some (List.cons.inj same).1)
  rw [readValue, readValueWithin, read, basicString_of_writtenString string]
  simp

end Strings

section Lines

variable {gap rest : List Char} {statements : List Statement}

theorem skipSpace_comment {text : List Char} (visible : ∀ c ∈ text, IsVisible c)
    (rest : List Char) : skipSpace true (text ++ '\n' :: rest) = skipSpace false rest := by
  induction text with
  | nil => rw [List.nil_append, skipSpace]
  | cons c text ih =>
    have first := visible c List.mem_cons_self
    have notBreak : c ≠ '\n' := by
      rintro rfl
      exact absurd first.1 (by decide)
    have notReturn : c ≠ '\r' := by
      rintro rfl
      exact absurd first.1 (by decide)
    rw [List.cons_append, skipSpace, isControl_of_isVisible first, if_neg Bool.false_ne_true,
      ih fun d member => visible d (List.mem_cons_of_mem c member)]
    · exact notBreak
    · intro _ isReturn
      exact absurd isReturn notReturn

theorem skipSpace_gap (space : Gap gap) (rest : List Char) :
    skipSpace false (gap ++ rest) = skipSpace false rest := by
  induction space with
  | nil => rfl
  | blank _ ih => rw [List.cons_append, skipSpace, ih]
  | comment visible _ ih =>
    rw [List.cons_append, List.append_assoc, List.cons_append, skipSpace]
    · simp [isBlank, skipSpace_comment visible, ih]
    · simp
    · simp

theorem ne_of_isBare {c d : Char} (bare : isBare c = true) (other : isBare d = false) : c ≠ d := by
  rintro rfl
  exact absurd bare (by rw [other]; decide)

theorem isBlank_of_isBare {c : Char} (bare : isBare c = true) : isBlank c = false := by
  simp [isBlank, ne_of_isBare bare (show isBare ' ' = false by decide),
    ne_of_isBare bare (show isBare '\t' = false by decide)]

theorem IsBareName.exists_cons {name : String} (bare : IsBareName name) :
    ∃ c tail, name.toList = c :: tail ∧ isBare c = true := by
  obtain ⟨nonempty, each⟩ := bare
  cases split : name.toList with
  | nil => exact absurd (String.toList_eq_nil_iff.mp split) nonempty
  | cons c tail =>
    rw [split, List.all_cons, Bool.and_eq_true] at each
    exact ⟨c, tail, rfl, each.1⟩

theorem readPart_of_isBareName {name : String} (bare : IsBareName name) {c : Char}
    (ended : isBare c = false) (rest : List Char) :
    readPart (name.toList ++ c :: rest) = some (name, c :: rest) := by
  obtain ⟨first, tail, split, firstBare⟩ := bare.exists_cons
  have part : (name.toList ++ c :: rest).takeWhile isBare = name.toList := by
    rw [List.takeWhile_append_of_pos (List.all_eq_true.mp bare.2),
      List.takeWhile_cons_of_neg (by rw [ended]; decide), List.append_nil]
  have read : readPart (name.toList ++ c :: rest) =
      if ((name.toList ++ c :: rest).takeWhile isBare).isEmpty then none
      else some (String.ofList ((name.toList ++ c :: rest).takeWhile isBare),
        (name.toList ++ c :: rest).drop ((name.toList ++ c :: rest).takeWhile isBare).length) := by
    rw [split, List.cons_append, readPart]
    · intro _ same
      exact ne_of_isBare firstBare (by decide) (List.cons.inj same).1
    · intro _ same
      exact ne_of_isBare firstBare (by decide) (List.cons.inj same).1
  have nonempty : name.toList.isEmpty = false := by rw [split]; rfl
  rw [read, part, nonempty, if_neg Bool.false_ne_true, String.ofList_toList, List.drop_left]

/-- A name without quotes is read as a key of one part, together with the blanks behind it. -/
theorem readKey_of_isBareName {name : String} (bare : IsBareName name) {c : Char}
    (ended : isBare c = false) {rest after : List Char} (blanks : skipBlanks (c :: rest) = after)
    (single : after.head? ≠ some '.') :
    readKey (name.toList ++ c :: rest) = some (⟨[], name⟩, after) := by
  have start : skipBlanks (name.toList ++ c :: rest) = name.toList ++ c :: rest := by
    obtain ⟨first, tail, split, firstBare⟩ := bare.exists_cons
    rw [split, List.cons_append, skipBlanks, List.dropWhile_cons_of_neg]
    rw [isBlank_of_isBare firstBare]
    decide
  have parts : readParts maxParts (name.toList ++ c :: rest) = some ([name], after) := by
    rw [maxParts, readParts, start, readPart_of_isBareName bare ended]
    dsimp only
    rw [blanks]
    split
    · exact absurd rfl single
    · rfl
  rw [readKey, parts]
  rfl

theorem readStatement_elementLine {name : String} (bare : IsBareName name) (rest : List Char) :
    readStatement (elementLine name ++ rest) = some (.element ⟨[], name⟩, '\n' :: rest) := by
  have key : readKey (name.toList ++ ']' :: ']' :: '\n' :: rest) =
      some (⟨[], name⟩, ']' :: ']' :: '\n' :: rest) :=
    readKey_of_isBareName bare (by decide) rfl (by simp)
  simp [elementLine, readStatement, key]

theorem readStatement_of_isBare {c : Char} (bare : isBare c = true) (rest : List Char) :
    readStatement (c :: rest) =
      (readPair readValue (c :: rest)).map fun ((key, value), rest) => (.pair key value, rest) := by
  have notBracket : c ≠ '[' := ne_of_isBare bare (by decide)
  rw [readStatement]
  · intro _ same
    exact notBracket (List.cons.inj same).1
  · intro _ same
    exact notBracket (List.cons.inj same).1

theorem readStatement_stringLine {key value : String} {text : List Char} (bare : IsBareName key)
    (string : WrittenString value.toList text) (rest : List Char) :
    readStatement (stringLine key text ++ rest) =
      some (.pair ⟨[], key⟩ (.string value), '\n' :: rest) := by
  have line : stringLine key text ++ rest =
      key.toList ++ ' ' :: '=' :: ' ' :: '"' :: (text ++ '"' :: '\n' :: rest) := by
    simp [stringLine]
  have readName : readKey (stringLine key text ++ rest) =
      some (⟨[], key⟩, '=' :: ' ' :: '"' :: (text ++ '"' :: '\n' :: rest)) := by
    rw [line]
    exact readKey_of_isBareName bare (by decide) rfl (by simp)
  have behind : skipBlanks (' ' :: '"' :: (text ++ '"' :: '\n' :: rest)) =
      '"' :: (text ++ '"' :: '\n' :: rest) := rfl
  have pair : readPair readValue (stringLine key text ++ rest) =
      some ((⟨[], key⟩, .string value), '\n' :: rest) := by
    simp only [readPair, readName, behind, readValue_of_writtenString string, Option.map_some]
    rfl
  obtain ⟨first, tail, split, firstBare⟩ := bare.exists_cons
  rw [line, split, List.cons_append, readStatement_of_isBare firstBare, ← List.cons_append, ← split,
    ← line, pair, Option.map_some]

/-- A text that holds exactly these statements. Each takes at least one character, so the reader of
a whole document never runs out of its bound. -/
def Reads (text : List Char) (statements : List Statement) : Prop :=
  ∀ bound, text.length < bound → readStatements bound text = some statements

theorem reads_gap (space : Gap gap) : Reads gap [] := by
  intro bound room
  obtain ⟨bound, rfl⟩ := Nat.exists_eq_add_of_lt room
  have skipped := skipSpace_gap space []
  rw [List.append_nil] at skipped
  rw [readStatements, skipped, skipSpace]

/-- A statement on a line of its own comes before the statements of the lines behind it. -/
theorem Reads.cons {line : List Char} {statement : Statement} (space : Gap gap)
    (solid : skipSpace false line = line)
    (read : readStatement line = some (statement, '\n' :: rest))
    (shorter : rest.length < line.length) (more : Reads rest statements) :
    Reads (gap ++ line) (statement :: statements) := by
  intro bound room
  rw [List.length_append] at room
  cases bound with
  | zero => omega
  | succ bound =>
    have ended : skipLineEnd? ('\n' :: rest) = some rest := rfl
    rw [readStatements, skipSpace_gap space, solid]
    match line, read, shorter with
    | c :: line, read, _ => simp only [read, ended, more bound (by omega), Option.map_some]

theorem skipSpace_of_isBare {c : Char} (bare : isBare c = true) (rest : List Char) :
    skipSpace false (c :: rest) = c :: rest := by
  have notComment : c ≠ '#' := ne_of_isBare bare (by decide)
  rw [skipSpace, isBlank_of_isBare bare, if_neg Bool.false_ne_true, if_neg notComment]
  · exact ne_of_isBare bare (by decide)
  · intro _ isReturn
    exact absurd isReturn (ne_of_isBare bare (by decide))

theorem Reads.element {name : String} (bare : IsBareName name) (space : Gap gap)
    (more : Reads rest statements) :
    Reads (gap ++ (elementLine name ++ rest)) (.element ⟨[], name⟩ :: statements) := by
  refine more.cons space rfl (readStatement_elementLine bare rest) ?_
  simp only [elementLine, List.length_append, List.length_cons]
  omega

theorem Reads.string {key value : String} {text : List Char} (bare : IsBareName key)
    (string : WrittenString value.toList text) (more : Reads rest statements) :
    Reads (stringLine key text ++ rest) (.pair ⟨[], key⟩ (.string value) :: statements) := by
  change Reads ([] ++ (stringLine key text ++ rest)) _
  refine more.cons .nil ?_ (readStatement_stringLine bare string rest) ?_
  · obtain ⟨first, tail, split, firstBare⟩ := bare.exists_cons
    rw [stringLine, split, List.cons_append, List.cons_append, skipSpace_of_isBare firstBare]
  · simp only [stringLine, List.length_append, List.length_cons]
    omega

theorem parse?_of_reads {text : String} (unmarked : text.toList.head? ≠ some '\uFEFF')
    (reads : Reads text.toList statements) : parse? text = ofStatements? statements := by
  have same : skipMark text.toList = text.toList := by
    unfold skipMark
    split
    · rename_i marked
      exact absurd (by rw [marked]; rfl) unmarked
    · rfl
  simp only [parse?, same, reads _ (Nat.lt_succ_self _), Option.bind_some]

end Lines

end TemplateHover.Toml
