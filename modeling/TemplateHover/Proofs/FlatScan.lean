import TemplateHover.Yaml.Scanner

namespace TemplateHover.Yaml

/-- An entry of a flat mapping: a key and a value of letters, of which the value may be missing. The
colon of a key has to follow within 1024 characters. -/
structure FlatEntry where
  key : String
  value : String
  key_nonempty : key ≠ ""
  key_short : key.length ≤ 1000
  key_letters : ∀ c ∈ key.toList, c.isAlpha = true
  value_letters : ∀ c ∈ value.toList, c.isAlpha = true

namespace FlatEntry

/-- The line of an entry. -/
def line (entry : FlatEntry) : String :=
  if entry.value = "" then entry.key ++ ":" else entry.key ++ ": " ++ entry.value

/-- The start of the line behind that of an entry. -/
def below (entry : FlatEntry) (mark : Mark) : Mark :=
  (mark.right entry.line.length).down

/-- The tokens of an entry up to its colon, where its line starts at a mark. -/
def keyTokens (entry : FlatEntry) (mark : Mark) : List Token :=
  [⟨mark, .key⟩, ⟨mark, .scalar .plain entry.key⟩, ⟨mark.right entry.key.length, .value⟩]

/-- The tokens of an entry whose line starts at a mark. -/
def tokens (entry : FlatEntry) (mark : Mark) : List Token :=
  entry.keyTokens mark ++
    if entry.value = "" then []
    else [⟨mark.right (entry.key.length + 2), .scalar .plain entry.value⟩]

/-- How many rounds of a scan the line of an entry takes. -/
def rounds (entry : FlatEntry) : Nat :=
  if entry.value = "" then 2 else 3

theorem length_line (entry : FlatEntry) :
    entry.line.length =
      if entry.value = "" then entry.key.length + 1
      else entry.key.length + 2 + entry.value.length := by
  unfold line
  split <;> simp only [String.length_append] <;> rfl

theorem rounds_le (entry : FlatEntry) : entry.rounds ≤ entry.line.length := by
  have keyLength : entry.key.length ≠ 0 := by simpa using entry.key_nonempty
  rw [rounds, length_line]
  split
  · omega
  · rename_i present
    have valueLength : entry.value.length ≠ 0 := by simpa using present
    omega

end FlatEntry

/-- The characters of a flat mapping, one line for each entry. -/
def flatLines (entries : List FlatEntry) : List Char :=
  entries.flatMap fun entry => entry.line.toList ++ ['\n']

/-- The text of a flat mapping. -/
def flatText (entries : List FlatEntry) : String :=
  .ofList (flatLines entries)

/-- The tokens of the entries from a mark on, and of the ends behind them. -/
def flatTokens : Mark → List FlatEntry → List Token
  | mark, [] => [⟨mark, .blockEnd⟩, ⟨mark, .streamEnd⟩]
  | mark, entry :: entries => entry.tokens mark ++ flatTokens (entry.below mark) entries

/-- What may follow a line of a flat mapping: the end of the text or the next key. -/
def StartsLine (rest : List Char) : Prop :=
  ∀ c ∈ rest.head?, c.isAlpha = true

theorem flatLines_cons (entry : FlatEntry) (entries : List FlatEntry) :
    flatLines (entry :: entries) = entry.line.toList ++ '\n' :: flatLines entries := by
  simp [flatLines]

theorem startsLine_flatLines (entries : List FlatEntry) : StartsLine (flatLines entries) := by
  cases entries with
  | nil =>
    rintro c none
    cases none
  | cons entry entries =>
    obtain ⟨d, name, keyEq⟩ := List.exists_cons_of_ne_nil
      (show entry.key.toList ≠ [] by simpa using entry.key_nonempty)
    have first : (flatLines (entry :: entries)).head? = some d := by
      rw [flatLines_cons, FlatEntry.line]
      split <;> simp [keyEq]
    rw [StartsLine, first]
    rintro c same
    cases same
    exact entry.key_letters d (by simp [keyEq])

theorem Mark.right_right (mark : Mark) (first second : Nat) :
    (mark.right first).right second = mark.right (first + second) := by
  simp only [Mark.right, Nat.add_assoc]

section Letters

variable {c : Char} (letter : c.isAlpha = true)

include letter

theorem ne_of_isAlpha {other : Char} (isOther : other.isAlpha = false) : c ≠ other := by
  rintro rfl
  cases letter.symm.trans isOther

theorem isBreak_of_isAlpha : isBreak c = false :=
  decide_eq_false (ne_of_isAlpha letter (by decide))

theorem isBlank_of_isAlpha : isBlank c = false := by
  have notSpace : c ≠ ' ' := ne_of_isAlpha letter (by decide)
  have notTab : c ≠ '\t' := ne_of_isAlpha letter (by decide)
  simp [isBlank, notSpace, notTab]

theorem atMarker_of_isAlpha {indicator : Char} (other : indicator.isAlpha = false)
    (rest : List Char) : atMarker indicator (c :: rest) = false := by
  simp [atMarker, (ne_of_isAlpha letter other).symm]

theorem endsPlain_of_isAlpha (rest : List Char) : endsPlain false c rest = false := by
  have notColon : c ≠ ':' := ne_of_isAlpha letter (by decide)
  simp [endsPlain, notColon]

end Letters

/-- Letters are taken into a plain scalar one after the other. -/
theorem plainFrom_letters {text : List Char} (letters : ∀ c ∈ text, c.isAlpha = true) (margin : Int)
    (rest : List Char) (mark : Mark) (fold : Fold) :
    plainFrom false margin (text ++ rest) mark false .text fold =
      plainFrom false margin rest (mark.right text.length) false .text
        { fold with text := text.reverse ++ fold.text } := by
  induction text generalizing mark fold with
  | nil => rfl
  | cons c text ih =>
    have letter := letters c (by simp)
    have behind := ih (fun d member => letters d (List.mem_cons_of_mem c member)) (mark.right 1)
      (fold.push c)
    rw [Mark.right_right, Nat.add_comm] at behind
    rw [List.cons_append, plainFrom]
    simp only [isBreak_of_isAlpha letter, isBlank_of_isAlpha letter, endsPlain_of_isAlpha letter,
      behind]
    simp [Fold.push]

theorem plainScalar_letters {text : List Char} (nonempty : text ≠ [])
    (letters : ∀ c ∈ text, c.isAlpha = true) (margin : Int) (rest : List Char) (mark : Mark)
    (fresh : Bool) :
    (Cursor.mk (text ++ rest) mark fresh).plainScalar false margin =
      plainFrom false margin rest (mark.right text.length) false .text
        ⟨text.reverse, [], false, 0⟩ := by
  obtain ⟨c, text, rfl⟩ := List.exists_cons_of_ne_nil nonempty
  have letter := letters c (by simp)
  have notHash : c ≠ '#' := ne_of_isAlpha letter (by decide)
  have noMarker : atDocumentMarker (c :: (text ++ rest)) = false := by
    rw [atDocumentMarker, atMarker_of_isAlpha letter (by decide),
      atMarker_of_isAlpha letter (by decide)]
    rfl
  have start : Fold.empty.join fresh = .empty := by
    cases fresh <;> rfl
  have behind := plainFrom_letters (fun d member => letters d (List.mem_cons_of_mem c member)) margin
    rest (mark.right 1) (Fold.empty.push c)
  rw [Mark.right_right, Nat.add_comm] at behind
  rw [Cursor.plainScalar, List.cons_append, plainFrom]
  simp only [isBreak_of_isAlpha letter, isBlank_of_isAlpha letter, endsPlainRun, notHash, noMarker,
    endsPlain_of_isAlpha letter, start, behind]
  simp [Fold.push, Fold.empty]

/-- A key ends before its colon. -/
theorem plainFrom_colon {rest : List Char} (ended : atBlankOrEnd rest = true) (margin : Int)
    (mark : Mark) (fold : Fold) :
    plainFrom false margin (':' :: rest) mark false .text fold =
      .ok ⟨fold.value, ':' :: rest, mark, false⟩ := by
  simp [plainFrom, isBreak, isBlank, endsPlain, ended]

/-- A value ends with its line, for the next key is not indented. -/
theorem plainFrom_break {rest : List Char} (startsLine : StartsLine rest) (mark : Mark)
    (fold : Fold) :
    plainFrom false (0 + 1) ('\n' :: rest) mark false .text fold =
      .ok ⟨fold.value, rest, mark.down, true⟩ := by
  cases rest with
  | nil => simp [plainFrom, isBreak, Fold.lineBreak, Fold.value]
  | cons c rest =>
    have letter := startsLine c rfl
    simp only [plainFrom, isBreak_of_isAlpha letter, isBlank_of_isAlpha letter]
    simp [isBreak, Mark.down, Fold.lineBreak, Fold.value]

theorem skipSpaceFrom_solid {c : Char} (solid : c.isAlpha = true ∨ c = ':') (rest : List Char)
    (mark : Mark) (fresh broken : Bool) (tabLimit : Int) :
    skipSpaceFrom tabLimit (c :: rest) mark fresh broken false =
      .ok (⟨c :: rest, mark, fresh⟩, broken) := by
  rcases solid with letter | rfl
  · have notHash : c ≠ '#' := ne_of_isAlpha letter (by decide)
    have notTab : c ≠ '\t' := ne_of_isAlpha letter (by decide)
    simp [skipSpaceFrom, isBreak_of_isAlpha letter, isBlank_of_isAlpha letter, notHash, notTab]
  · simp [skipSpaceFrom, isBreak, isBlank]

theorem skipSpace_solid {c : Char} (solid : c.isAlpha = true ∨ c = ':') (rest : List Char)
    (mark : Mark) (fresh : Bool) (tabLimit : Int) :
    (Cursor.mk (c :: rest) mark fresh).skipSpace tabLimit = .ok (⟨c :: rest, mark, fresh⟩, false) :=
  skipSpaceFrom_solid solid rest mark fresh false tabLimit

theorem streamText_eq_self {text : List Char} (each : ∀ c ∈ text, c ≠ '\x00' ∧ c ≠ '\r') :
    Cursor.streamText text = text := by
  induction text with
  | nil => rfl
  | cons c text ih =>
    obtain ⟨notNull, notReturn⟩ := each c (by simp)
    rw [Cursor.streamText, ih fun d member => each d (List.mem_cons_of_mem c member)]
    · exact notNull
    · intro _ carriageReturn
      exact absurd carriageReturn notReturn
    · exact notReturn

theorem FlatEntry.mem_line {entry : FlatEntry} {c : Char} (member : c ∈ entry.line.toList) :
    c.isAlpha = true ∨ c = ':' ∨ c = ' ' := by
  have keyLetter := entry.key_letters c
  have valueLetter := entry.value_letters c
  unfold line at member
  split at member
  · rw [String.toList_append, List.mem_append] at member
    rcases member with inKey | colon
    · exact Or.inl (keyLetter inKey)
    · exact Or.inr (Or.inl (by simpa using colon))
  · simp only [String.toList_append, List.mem_append] at member
    rcases member with (inKey | separator) | inValue
    · exact Or.inl (keyLetter inKey)
    · exact Or.inr (by simpa using separator)
    · exact Or.inl (valueLetter inValue)

theorem FlatEntry.each_line (entry : FlatEntry) :
    ∀ c ∈ entry.line.toList, c ≠ '\x00' ∧ c ≠ '\r' ∧ c ≠ '\n' := by
  intro c member
  rcases mem_line member with letter | rfl | rfl
  · exact ⟨ne_of_isAlpha letter (by decide), ne_of_isAlpha letter (by decide),
      ne_of_isAlpha letter (by decide)⟩
  · decide
  · decide

theorem streamText_flatLines (entries : List FlatEntry) :
    Cursor.streamText (flatLines entries) = flatLines entries := by
  apply streamText_eq_self
  intro c member
  obtain ⟨entry, -, inLine⟩ := List.mem_flatMap.mp member
  rcases List.mem_append.mp inLine with inLine | lineBreak
  · exact ⟨(entry.each_line c inLine).1, (entry.each_line c inLine).2.1⟩
  · obtain rfl := List.mem_singleton.mp lineBreak
    decide

namespace Scanner

/-- A scanner outside of all flow collections. -/
def inBlock (cursor : Cursor) (tokens : List Token) (indent : Int) (levels : List Level)
    (keyAllowed : Bool) (key : Option PossibleKey) : Scanner where
  cursor := cursor
  tokens := tokens
  indent := indent
  levels := levels
  keyAllowed := keyAllowed
  key := key
  outerKeys := []
  adjacent := 0
  inFlowMapping := false
  inPair := false

section Fields

variable (cursor : Cursor) (tokens : List Token) (indent : Int) (levels : List Level)
  (keyAllowed : Bool) (key : Option PossibleKey)

@[simp]
theorem inBlock_cursor : (inBlock cursor tokens indent levels keyAllowed key).cursor = cursor :=
  rfl

@[simp]
theorem inBlock_mark : (inBlock cursor tokens indent levels keyAllowed key).mark = cursor.mark :=
  rfl

@[simp]
theorem inBlock_indent : (inBlock cursor tokens indent levels keyAllowed key).indent = indent :=
  rfl

@[simp]
theorem inBlock_keyAllowed :
    (inBlock cursor tokens indent levels keyAllowed key).keyAllowed = keyAllowed :=
  rfl

@[simp]
theorem inBlock_inFlow : (inBlock cursor tokens indent levels keyAllowed key).inFlow = false :=
  rfl

end Fields

variable {cursor behind : Cursor} {tokens : List Token} {indent innerIndent : Int}
  {levels innerLevels : List Level} {keyAllowed broken : Bool} {key : Option PossibleKey}

theorem unindent_eq_self {column : Int} (inside : indent ≤ column) :
    (inBlock cursor tokens indent levels keyAllowed key).unindent column =
      inBlock cursor tokens indent levels keyAllowed key := by
  have stays : closeLevels column levels indent 0 = (levels, indent, 0) := by
    cases levels with
    | nil => rfl
    | cons level outer => simp [closeLevels, Int.not_lt.mpr inside]
  simp [unindent, inBlock, inFlow, stays]

/-- The scan behind its next token, where the space before the token has been read and the levels that
end there are closed. -/
def fetch (scanner : Scanner) : Except Fault Scanner :=
  match scanner.cursor.rest with
  | [] => scanner.streamEnd
  | c :: rest =>
    if scanner.mark.column = 0 && c = '%' then scanner.directive
    else if scanner.mark.column = 0 && atMarker '-' (c :: rest) then
      scanner.documentMarker .documentStart
    else if scanner.mark.column = 0 && atMarker '.' (c :: rest) then scanner.documentEnd
    else if (scanner.mark.column : Int) < scanner.indent then .error .indentation
    else scanner.content c rest

theorem next_of_settled (space : cursor.skipSpace innerIndent = .ok (behind, broken))
    (kept : (inBlock behind tokens innerIndent innerLevels (keyAllowed || broken) key).dropStaleKey =
      .ok (inBlock behind tokens innerIndent innerLevels (keyAllowed || broken) key))
    (unindented :
      (inBlock behind tokens innerIndent innerLevels (keyAllowed || broken) key).unindent
        behind.mark.column = inBlock behind tokens indent levels (keyAllowed || broken) key) :
    (inBlock cursor tokens innerIndent innerLevels keyAllowed key).next =
      (inBlock behind tokens indent levels (keyAllowed || broken) key).fetch := by
  have moved : ((inBlock cursor tokens innerIndent innerLevels keyAllowed key).moveTo behind).allowKey
      (keyAllowed || (broken && !false)) =
        inBlock behind tokens innerIndent innerLevels (keyAllowed || broken) key := by
    rw [Bool.not_false, Bool.and_true]
    rfl
  unfold next
  simp only [inBlock_cursor, inBlock_indent, inBlock_keyAllowed, inBlock_inFlow, space, bind,
    Except.bind, moved, kept, unindented]
  rfl

/-- A letter or a colon that is indented far enough starts no marker and no directive. -/
theorem next_content {c : Char} {rest : List Char}
    (space : cursor.skipSpace innerIndent = .ok (behind, broken))
    (kept : (inBlock behind tokens innerIndent innerLevels (keyAllowed || broken) key).dropStaleKey =
      .ok (inBlock behind tokens innerIndent innerLevels (keyAllowed || broken) key))
    (unindented :
      (inBlock behind tokens innerIndent innerLevels (keyAllowed || broken) key).unindent
        behind.mark.column = inBlock behind tokens indent levels (keyAllowed || broken) key)
    (atChar : behind.rest = c :: rest) (plain : c.isAlpha = true ∨ c = ':')
    (indented : indent ≤ behind.mark.column) :
    (inBlock cursor tokens innerIndent innerLevels keyAllowed key).next =
      (inBlock behind tokens indent levels (keyAllowed || broken) key).content c rest := by
  have notDirective : c ≠ '%' := by
    rcases plain with letter | rfl
    · exact ne_of_isAlpha letter (by decide)
    · decide
  have noMarker (indicator : Char) (other : indicator.isAlpha = false) (notColon : indicator ≠ ':') :
      atMarker indicator (c :: rest) = false := by
    rcases plain with letter | rfl
    · exact atMarker_of_isAlpha letter other rest
    · simp [atMarker, notColon]
  rw [next_of_settled space kept unindented, fetch, inBlock_cursor, atChar]
  simp [notDirective, noMarker '-' (by decide) (by decide), noMarker '.' (by decide) (by decide),
    Int.not_lt.mpr indented]

theorem content_of_isAlpha {c : Char} (letter : c.isAlpha = true) (scanner : Scanner)
    (rest : List Char) : scanner.content c rest = scanner.plainScalar := by
  have ne (other : Char) (isOther : other.isAlpha = false) : c ≠ other :=
    ne_of_isAlpha letter isOther
  simp only [content, ne '[' (by decide), ne '\x7b' (by decide), ne ']' (by decide),
    ne '\x7d' (by decide), ne ',' (by decide), ne '-' (by decide), ne '?' (by decide),
    ne ':' (by decide), ne '*' (by decide), ne '&' (by decide), ne '!' (by decide),
    ne '|' (by decide), ne '>' (by decide), ne '\'' (by decide), ne '"' (by decide),
    ne '%' (by decide), ne '@' (by decide), ne '\x60' (by decide)]
  simp

theorem content_colon {scanner : Scanner} {rest : List Char} (ended : atBlankOrEnd rest = true) :
    scanner.content ':' rest = scanner.mappingValue := by
  simp [content, colonIsValue, ended]

theorem plainScalar_inBlock {saved : Option PossibleKey} {scalar : ScalarText}
    (saves : (inBlock cursor tokens innerIndent innerLevels keyAllowed key).saveKey =
      inBlock cursor tokens innerIndent innerLevels keyAllowed saved)
    (leaves : outerBlock innerLevels innerIndent = (levels, indent))
    (text : cursor.plainScalar false (indent + 1) = .ok scalar) :
    (inBlock cursor tokens innerIndent innerLevels keyAllowed key).plainScalar =
      .ok (inBlock scalar.cursor (tokens ++ [⟨cursor.mark, .scalar .plain scalar.value⟩]) indent
        levels scalar.cursor.fresh saved) := by
  have left : (inBlock cursor tokens innerIndent innerLevels keyAllowed saved).leaveValueLevels =
      inBlock cursor tokens indent levels keyAllowed saved := by
    simp only [leaveValueLevels, inBlock, leaves]
  unfold plainScalar
  simp only [saves, left, inBlock_inFlow, inBlock_cursor, inBlock_mark, inBlock_indent, text, bind,
    Except.bind, Bool.false_and]
  rfl

/-- The indentation of a mapping at the first column, or of the text around it before it is
opened. -/
def mappingIndent (opened : Bool) : Int :=
  if opened then 0 else -1

/-- The levels around the keys of a mapping at the first column, of which there are none before it is
opened. -/
def mappingLevels (opened : Bool) : List Level :=
  if opened then [⟨-1, true⟩] else []

/-- The token that opens a mapping at a mark, unless it is opened. -/
def openingTokens (opened : Bool) (mark : Mark) : List Token :=
  if opened then [] else [⟨mark, .blockMappingStart⟩]

/-- A scanner at the start of a line of a flat mapping. -/
def atLine (opened : Bool) (text : List Char) (mark : Mark) (tokens : List Token) : Scanner :=
  inBlock ⟨text, mark, true⟩ tokens (mappingIndent opened) (mappingLevels opened) true none

/-- A scanner behind the colon of a flat mapping. The level of the value keeps its text to the right
of the key. -/
def atValue (text : List Char) (mark : Mark) (tokens : List Token) : Scanner :=
  inBlock ⟨text, mark, false⟩ tokens 1 [⟨0, false⟩, ⟨-1, true⟩] false none

/-- A scanner behind the key of a flat mapping, which starts at a mark. -/
def atColon (opened : Bool) (text : List Char) (mark : Mark) (length : Nat) (tokens : List Token)
    (name : String) : Scanner :=
  inBlock ⟨text, mark.right length, false⟩ (tokens ++ [⟨mark, .scalar .plain name⟩])
    (mappingIndent opened) (mappingLevels opened) false (some ⟨mark, tokens.length, opened⟩)

theorem mappingIndent_le (opened : Bool) (column : Nat) : mappingIndent opened ≤ column := by
  cases opened
  · exact Int.le_trans (by decide) (Int.natCast_nonneg column)
  · exact Int.natCast_nonneg column

/-- The key of a line is read up to its colon and remembered as a key. -/
theorem next_key (opened : Bool) {name rest : List Char} (nonempty : name ≠ [])
    (letters : ∀ c ∈ name, c.isAlpha = true) (ended : atBlankOrEnd rest = true) {mark : Mark}
    (first : mark.column = 0) (tokens : List Token) :
    (atLine opened (name ++ ':' :: rest) mark tokens).next =
      .ok (atColon opened (':' :: rest) mark name.length tokens (.ofList name)) := by
  have saves : (inBlock ⟨name ++ ':' :: rest, mark, true⟩ tokens (mappingIndent opened)
      (mappingLevels opened) true none).saveKey =
      inBlock ⟨name ++ ':' :: rest, mark, true⟩ tokens (mappingIndent opened) (mappingLevels opened)
        true (some ⟨mark, tokens.length, opened⟩) := by
    cases opened <;>
      simp [saveKey, inBlock, Scanner.mark, inFlow, inBlockLevel, mappingIndent, mappingLevels, first]
  have leaves : outerBlock (mappingLevels opened) (mappingIndent opened) =
      (mappingLevels opened, mappingIndent opened) := by
    cases opened <;> rfl
  have text := plainScalar_letters nonempty letters (mappingIndent opened + 1) (':' :: rest) mark true
  rw [plainFrom_colon ended] at text
  have read := plainScalar_inBlock saves leaves text
  obtain ⟨c, name, rfl⟩ := List.exists_cons_of_ne_nil nonempty
  have letter := letters c (by simp)
  have space := skipSpace_solid (Or.inl letter) (name ++ ':' :: rest) mark true (mappingIndent opened)
  rw [atLine, List.cons_append,
    next_content space rfl (unindent_eq_self (mappingIndent_le opened _)) rfl (Or.inl letter)
      (mappingIndent_le opened _), content_of_isAlpha letter]
  simpa [atColon, Fold.value] using read

theorem emitAt_append (before after : List Token) (mark : Mark) (kind : TokenKind) :
    (inBlock cursor (before ++ after) indent levels keyAllowed key).emitAt before.length mark kind =
      inBlock cursor (before ++ ⟨mark, kind⟩ :: after) indent levels keyAllowed key := by
  simp [emitAt, inBlock]

theorem openBlock_mapping (opened : Bool) (before after : List Token) (mark : Mark) :
    (inBlock cursor (before ++ after) (mappingIndent opened) (mappingLevels opened) keyAllowed
        key).openBlock 0 before.length mark .blockMappingStart =
      inBlock cursor (before ++ (openingTokens opened mark ++ after)) 0 [⟨-1, true⟩] keyAllowed
        key := by
  cases opened
  · simp [openBlock, leaveValueLevel, emitAt, inBlock, inFlow, mappingIndent, mappingLevels,
      openingTokens]
  · simp [openBlock, leaveValueLevel, inBlock, inFlow, mappingIndent, mappingLevels, openingTokens]

theorem mappingValue_inBlock {possible : PossibleKey}
    (tabs : skipValueTabs (cursor.skip 1) = .ok behind) :
    let scanner := inBlock cursor tokens indent levels keyAllowed (some possible)
    scanner.mappingValue =
      let keyed := scanner.emitAt possible.token possible.mark .key
      let opened := keyed.openBlock possible.mark.column possible.token cursor.mark .blockMappingStart
      .ok (({ opened.enterValueLevel with key := none }.emit cursor.mark .value).allowKey false
        |>.moveTo behind) := by
  intro scanner
  have unfolded : scanner.mappingValue = (skipValueTabs (cursor.skip 1)).bind fun behind =>
      let keyed := scanner.emitAt possible.token possible.mark .key
      let opened := keyed.openBlock possible.mark.column possible.token cursor.mark .blockMappingStart
      .ok (({ opened.enterValueLevel with key := none }.emit cursor.mark .value).allowKey false
        |>.moveTo behind) := rfl
  rw [unfolded, tabs]
  rfl

/-- The colon makes a key of the scalar before it. The first one opens the mapping, whose token goes
in front of the key. -/
theorem next_colon (opened : Bool) {separator : Char} (parts : separator = ' ' ∨ separator = '\n')
    (rest : List Char) {length : Nat} (short : length ≤ 1000) {mark : Mark} (first : mark.column = 0)
    (tokens : List Token) (name : String) :
    (atColon opened (':' :: separator :: rest) mark length tokens name).next =
      .ok (atValue (separator :: rest) (mark.right (length + 1))
        (tokens ++ (openingTokens opened (mark.right length) ++
          [⟨mark, .key⟩, ⟨mark, .scalar .plain name⟩, ⟨mark.right length, .value⟩]))) := by
  have kept : (atColon opened (':' :: separator :: rest) mark length tokens name).dropStaleKey =
      .ok (atColon opened (':' :: separator :: rest) mark length tokens name) := by
    simp only [dropStaleKey, atColon, inBlock, Scanner.mark, inFlow, Mark.right]
    simp
    omega
  have ended : atBlankOrEnd (separator :: rest) = true := by
    rcases parts with rfl | rfl <;> rfl
  have noTabs : skipValueTabs (Cursor.skip ⟨':' :: separator :: rest, mark.right length, false⟩ 1) =
      .ok ⟨separator :: rest, mark.right (length + 1), false⟩ := by
    rcases parts with rfl | rfl <;> simp [skipValueTabs, Cursor.skip, startsWith, Mark.right_right]
  have space := skipSpace_solid (Or.inr rfl) (separator :: rest) (mark.right length) false
    (mappingIndent opened)
  unfold atColon at kept ⊢
  rw [next_content space kept (unindent_eq_self (mappingIndent_le opened _)) rfl (Or.inr rfl)
    (mappingIndent_le opened _), content_colon ended, mappingValue_inBlock noTabs]
  simp only [emitAt_append, first, openBlock_mapping]
  simp [atValue, enterValueLevel, inBlock, inFlow, inBlockLevel, emit, allowKey, moveTo]

/-- The value of a line is read together with the line break behind it. -/
theorem next_value {value rest : List Char} (nonempty : value ≠ [])
    (letters : ∀ c ∈ value, c.isAlpha = true) (startsLine : StartsLine rest) (mark : Mark)
    (tokens : List Token) :
    (atValue (' ' :: (value ++ '\n' :: rest)) mark tokens).next =
      .ok (atLine true rest (mark.right (1 + value.length)).down
        (tokens ++ [⟨mark.right 1, .scalar .plain (.ofList value)⟩])) := by
  have text := plainScalar_letters nonempty letters (0 + 1) ('\n' :: rest) (mark.right 1) false
  rw [plainFrom_break startsLine, Mark.right_right] at text
  have saves : (inBlock ⟨value ++ '\n' :: rest, mark.right 1, false⟩ tokens 1
      [⟨0, false⟩, ⟨-1, true⟩] false none).saveKey =
      inBlock ⟨value ++ '\n' :: rest, mark.right 1, false⟩ tokens 1 [⟨0, false⟩, ⟨-1, true⟩] false
        none := rfl
  have read := plainScalar_inBlock saves rfl text
  obtain ⟨c, name, rfl⟩ := List.exists_cons_of_ne_nil nonempty
  have letter := letters c (by simp)
  have space : (Cursor.mk (' ' :: (c :: name ++ '\n' :: rest)) mark false).skipSpace 1 =
      .ok (⟨c :: (name ++ '\n' :: rest), mark.right 1, false⟩, false) := by
    have solid := skipSpace_solid (Or.inl letter) (name ++ '\n' :: rest) (mark.right 1) false 1
    simpa [Cursor.skipSpace, skipSpaceFrom, isBreak, isBlank] using solid
  have indented : (1 : Int) ≤ (mark.right 1).column := by
    simp only [Mark.right]
    omega
  rw [atValue, next_content space rfl (unindent_eq_self indented) rfl (Or.inl letter) indented,
    content_of_isAlpha letter]
  simpa [atLine, mappingIndent, mappingLevels, Fold.value] using read

theorem unindent_value :
    (inBlock cursor tokens 1 [⟨0, false⟩, ⟨-1, true⟩] keyAllowed none).unindent 0 =
      inBlock cursor tokens 0 [⟨-1, true⟩] keyAllowed none := by
  simp [unindent, inBlock, inFlow, closeLevels]

/-- Where the value is missing, the scan goes on as it does at the start of the next line. -/
theorem next_break {rest : List Char} (startsLine : StartsLine rest) (mark : Mark)
    (tokens : List Token) :
    (atValue ('\n' :: rest) mark tokens).next = (atLine true rest mark.down tokens).next := by
  have solid (tabLimit : Int) (broken : Bool) :
      skipSpaceFrom tabLimit rest mark.down true broken false =
        .ok (⟨rest, mark.down, true⟩, broken) := by
    cases rest with
    | nil => rfl
    | cons c rest =>
      exact skipSpaceFrom_solid (Or.inl (startsLine c rfl)) rest mark.down true broken tabLimit
  have behindBreak : (Cursor.mk ('\n' :: rest) mark false).skipSpace 1 =
      .ok (⟨rest, mark.down, true⟩, true) := by
    simpa [Cursor.skipSpace, skipSpaceFrom, isBreak] using solid 1 true
  have atStart : (Cursor.mk rest mark.down true).skipSpace (mappingIndent true) =
      .ok (⟨rest, mark.down, true⟩, false) := solid (mappingIndent true) false
  rw [atValue, atLine, next_of_settled behindBreak rfl unindent_value,
    next_of_settled atStart rfl (unindent_eq_self (mappingIndent_le true _))]
  rfl

/-- The end of the text closes the mapping, on the line behind its last one. -/
theorem next_end {mark : Mark} (first : mark.column = 0) (tokens : List Token) :
    (atLine true [] mark tokens).next =
      .ok (inBlock ⟨[], mark, true⟩ (tokens ++ [⟨mark, .blockEnd⟩, ⟨mark, .streamEnd⟩]) (-1) []
        false none) := by
  have space : (Cursor.mk [] mark true).skipSpace (mappingIndent true) =
      .ok (⟨[], mark, true⟩, false) := rfl
  rw [atLine, next_of_settled space rfl (unindent_eq_self (mappingIndent_le true _))]
  simp [fetch, streamEnd, first, inBlock, Scanner.mark, unindent, inFlow, closeLevels, allowKey, emit,
    mappingIndent, mappingLevels]

/-- Whether more tokens may follow these. -/
def Unended (tokens : List Token) : Prop :=
  tokens.getLast?.any (·.kind = .streamEnd) = false

theorem unended_append {before after : List Token} (nonempty : after ≠ []) (unended : Unended after) :
    Unended (before ++ after) := by
  rw [Unended, List.getLast?_append, Option.or_of_isSome (by simpa using nonempty)]
  exact unended

theorem unended_keyTokens (entry : FlatEntry) (mark : Mark) : Unended (entry.keyTokens mark) := by
  simp [Unended, FlatEntry.keyTokens]

theorem unended_tokens (entry : FlatEntry) (mark : Mark) : Unended (entry.tokens mark) := by
  unfold FlatEntry.tokens
  split <;> simp [Unended, FlatEntry.keyTokens]

theorem run_of_next {scanner after : Scanner} (unended : Unended scanner.tokens)
    (step : scanner.next = .ok after) (fuel : Nat) :
    scanner.run (fuel + 1) = after.run fuel := by
  have goesOn : scanner.ended = false := unended
  rw [run, goesOn]
  simp only [Bool.false_eq_true, if_false, step]

theorem run_congr {scanner other : Scanner} (sameNext : scanner.next = other.next)
    (same : scanner.tokens = other.tokens) (unended : Unended scanner.tokens) (fuel : Nat) :
    scanner.run (fuel + 1) = other.run (fuel + 1) := by
  have goesOn : scanner.ended = false := unended
  have goesOnToo : other.ended = false := by
    rw [ended, ← same]
    exact unended
  rw [run, run, goesOn, goesOnToo, sameNext]
  rfl

/-- A key with its colon takes two rounds. -/
theorem run_key (opened : Bool) (entry : FlatEntry) {separator : Char}
    (parts : separator = ' ' ∨ separator = '\n') (rest : List Char) {mark : Mark}
    (first : mark.column = 0) {tokens : List Token} (unended : Unended tokens) (fuel : Nat) :
    (atLine opened (entry.key.toList ++ ':' :: separator :: rest) mark tokens).run (fuel + 2) =
      (atValue (separator :: rest) (mark.right (entry.key.length + 1))
        (tokens ++ (openingTokens opened (mark.right entry.key.length) ++
          entry.keyTokens mark))).run fuel := by
  have nonempty : entry.key.toList ≠ [] := by simpa using entry.key_nonempty
  have ended : atBlankOrEnd (separator :: rest) = true := by
    rcases parts with rfl | rfl <;> rfl
  have key := next_key opened nonempty entry.key_letters ended first tokens
  rw [String.ofList_toList, String.length_toList] at key
  have colon := next_colon opened parts rest entry.key_short first tokens entry.key
  have unendedKey : Unended (tokens ++ [⟨mark, .scalar .plain entry.key⟩]) :=
    unended_append (by simp) (by simp [Unended])
  rw [run_of_next unended key, run_of_next unendedKey colon]
  rfl

/-- The line of an entry adds the tokens of the entry, the first one behind the token that opens the
mapping. -/
theorem run_line (opened : Bool) (entry : FlatEntry) {rest : List Char}
    (startsLine : StartsLine rest) {mark : Mark} (first : mark.column = 0) {tokens : List Token}
    (unended : Unended tokens) (fuel : Nat) :
    (atLine opened (entry.line.toList ++ '\n' :: rest) mark tokens).run
        (fuel + 1 + entry.rounds) =
      (atLine true rest (entry.below mark)
        (tokens ++ (openingTokens opened (mark.right entry.key.length) ++ entry.tokens mark))).run
        (fuel + 1) := by
  have unendedColon : Unended (tokens ++
      (openingTokens opened (mark.right entry.key.length) ++ entry.keyTokens mark)) :=
    unended_append (by simp [FlatEntry.keyTokens])
      (unended_append (by simp [FlatEntry.keyTokens]) (unended_keyTokens entry mark))
  by_cases missing : entry.value = ""
  · have lineEq : entry.line.toList ++ '\n' :: rest = entry.key.toList ++ ':' :: '\n' :: rest := by
      simp [FlatEntry.line, missing]
    have tokensEq : entry.tokens mark = entry.keyTokens mark := by
      simp [FlatEntry.tokens, missing]
    have belowEq : entry.below mark = (mark.right (entry.key.length + 1)).down := by
      rw [FlatEntry.below, FlatEntry.length_line, if_pos missing]
    have value := next_break startsLine (mark.right (entry.key.length + 1))
      (tokens ++ (openingTokens opened (mark.right entry.key.length) ++ entry.keyTokens mark))
    rw [lineEq, FlatEntry.rounds, if_pos missing, tokensEq, belowEq,
      run_key opened entry (Or.inr rfl) rest first unended]
    exact run_congr value rfl unendedColon fuel
  · have nonempty : entry.value.toList ≠ [] := by simpa using missing
    have lineEq : entry.line.toList ++ '\n' :: rest =
        entry.key.toList ++ ':' :: ' ' :: (entry.value.toList ++ '\n' :: rest) := by
      simp [FlatEntry.line, missing]
    have tokensEq : entry.tokens mark = entry.keyTokens mark ++
        [⟨mark.right (entry.key.length + 2), .scalar .plain entry.value⟩] := by
      simp [FlatEntry.tokens, missing]
    have belowEq : entry.below mark =
        (mark.right (entry.key.length + 1 + (1 + entry.value.length))).down := by
      rw [FlatEntry.below, FlatEntry.length_line, if_neg missing]
      congr 2
      omega
    have value := next_value nonempty entry.value_letters startsLine
      (mark.right (entry.key.length + 1))
      (tokens ++ (openingTokens opened (mark.right entry.key.length) ++ entry.keyTokens mark))
    rw [String.ofList_toList, String.length_toList, Mark.right_right, Mark.right_right] at value
    rw [lineEq, FlatEntry.rounds, if_neg missing, tokensEq, belowEq,
      run_key opened entry (Or.inl rfl) _ first unended, run_of_next unendedColon value]
    simp only [List.append_assoc]

theorem run_of_ended {scanner : Scanner} (ended : scanner.ended = true) (fuel : Nat) :
    scanner.run fuel = .ok scanner := by
  cases fuel with
  | zero => rfl
  | succ fuel => rw [run, if_pos ended]

/-- From an opened mapping the scan reads the lines to the end of the text, in as many rounds as
there are characters and one more. -/
theorem run_entries (entries : List FlatEntry) {mark : Mark} (first : mark.column = 0)
    {tokens : List Token} (unended : Unended tokens) {fuel : Nat}
    (enough : (flatLines entries).length + 1 ≤ fuel) :
    ∃ after, (atLine true (flatLines entries) mark tokens).run fuel = .ok after ∧
      after.tokens = tokens ++ flatTokens mark entries := by
  induction entries generalizing mark tokens fuel with
  | nil =>
    obtain ⟨fuel, rfl⟩ := Nat.exists_eq_add_of_le' enough
    refine ⟨inBlock ⟨[], mark, true⟩ (tokens ++ [⟨mark, .blockEnd⟩, ⟨mark, .streamEnd⟩]) (-1) []
      false none, ?_, rfl⟩
    have step : (atLine true (flatLines []) mark tokens).run (fuel + 1) = _ :=
      run_of_next unended (next_end first tokens) fuel
    exact step.trans (run_of_ended (by simp [ended, inBlock]) fuel)
  | cons entry entries ih =>
    have roundsLe := entry.rounds_le
    rw [flatLines_cons, List.length_append, List.length_cons, String.length_toList] at enough
    obtain ⟨fuel, rfl⟩ : ∃ before, fuel = before + 1 + entry.rounds :=
      ⟨fuel - 1 - entry.rounds, by omega⟩
    have unendedLine : Unended (tokens ++ entry.tokens mark) :=
      unended_append (by simp [FlatEntry.tokens, FlatEntry.keyTokens]) (unended_tokens entry mark)
    obtain ⟨after, runs, tokensEq⟩ := ih (show (entry.below mark).column = 0 from rfl) unendedLine
      (show (flatLines entries).length + 1 ≤ fuel + 1 by omega)
    refine ⟨after, ?_, ?_⟩
    · rw [flatLines_cons, run_line true entry (startsLine_flatLines entries) first unended]
      exact runs
    · rw [tokensEq, flatTokens, List.append_assoc]

end Scanner

/-- The tokens of a flat mapping. The token that opens the mapping carries the mark of the first
colon. -/
theorem scan_flatLines (entry : FlatEntry) (entries : List FlatEntry) :
    let start : Mark := ⟨1, 0, 0⟩
    scan (flatLines (entry :: entries)) =
      .ok (⟨start, .streamStart⟩ :: ⟨start.right entry.key.length, .blockMappingStart⟩ ::
        flatTokens start (entry :: entries)) := by
  intro start
  have startEq : Scanner.start (flatLines (entry :: entries)) =
      Scanner.atLine false (flatLines (entry :: entries)) start [⟨start, .streamStart⟩] := by
    rw [Scanner.start, Cursor.ofText, streamText_flatLines]
    rfl
  have lengthEq : (flatLines (entry :: entries)).length =
      entry.line.length + (flatLines entries).length + 1 := by
    rw [flatLines_cons, List.length_append, List.length_cons, String.length_toList, Nat.add_assoc]
  have roundsLe := entry.rounds_le
  obtain ⟨fuel, fuelEq⟩ : ∃ fuel, (flatLines (entry :: entries)).length + 1 =
      fuel + 1 + entry.rounds :=
    ⟨(flatLines (entry :: entries)).length - entry.rounds, by omega⟩
  have unended : Scanner.Unended ([⟨start, .streamStart⟩,
      ⟨start.right entry.key.length, .blockMappingStart⟩] ++ entry.tokens start) :=
    Scanner.unended_append (by simp [FlatEntry.tokens, FlatEntry.keyTokens])
      (Scanner.unended_tokens entry start)
  obtain ⟨after, runs, tokensEq⟩ := Scanner.run_entries entries
    (show (entry.below start).column = 0 from rfl) unended
    (show (flatLines entries).length + 1 ≤ fuel + 1 by omega)
  have runsLine : (Scanner.start (flatLines (entry :: entries))).run
      ((flatLines (entry :: entries)).length + 1) = .ok after := by
    rw [startEq, fuelEq, flatLines_cons,
      Scanner.run_line false entry (startsLine_flatLines entries) rfl (by simp [Scanner.Unended])]
    exact runs
  rw [scan, runsLine]
  simp [tokensEq, flatTokens]

end TemplateHover.Yaml
