import TemplateHover.Context
import TemplateHover.Proofs.Patterns

namespace TemplateHover.Context

/-- What stands before and behind a word that follows a point in an action. -/
def ValuePosition (before after : List Char) : Prop :=
  ∃ front inner rest back,
    before = front ++ ['\x7b', '\x7b'] ++ inner ++ ['.'] ∧ '\x7d' ∉ inner ∧
      after = rest ++ ['\x7d', '\x7d'] ++ back ∧ '\x7b' ∉ rest

/-- What stands before and behind a word in an action that has white space behind it. -/
def FunctionPosition (before after : List Char) : Prop :=
  ∃ front inner blank rest back,
    before = front ++ ['\x7b', '\x7b'] ++ inner ∧ '\x7d' ∉ inner ∧ isBlank blank = true ∧
      after = blank :: (rest ++ ['\x7d', '\x7d'] ++ back) ∧ '\x7b' ∉ rest

/-- The field access of a word, without the character that may follow the field. -/
def plainValuePieces (word : List Char) : List Piece :=
  [.literal ['\x7b', '\x7b'], .many notClosing, .literal ['.'], .literal word, .many notOpening,
    .literal ['\x7d', '\x7d']]

/-- A word with white space behind it, without the character that may come before a function. -/
def plainFunctionPieces (word : List Char) : List Piece :=
  [.literal ['\x7b', '\x7b'], .many notClosing, .literal word, .one isBlank, .many notOpening,
    .literal ['\x7d', '\x7d']]

theorem spells_valuePieces {word text : List Char} :
    Spells (valuePieces word) text ↔ Spells (plainValuePieces word) text :=
  spells_append_congr (fun _ => spells_optional_many (bne_of_kind (by decide)))
    [.literal ['\x7b', '\x7b'], .many notClosing, .literal ['.'], .literal word] text

theorem spells_functionPieces {word text : List Char} :
    Spells (functionPieces word) text ↔ Spells (plainFunctionPieces word) text :=
  spells_append_congr (fun _ => spells_many_optional (bne_of_kind (by decide)))
    [.literal ['\x7b', '\x7b']] text

theorem value_holds_eq (line word : String) :
    value.holds line word = matchesAnywhere (plainValuePieces word.toList) line.toList :=
  matchesAnywhere_congr (fun _ => spells_valuePieces) line.toList

theorem function_holds_eq (line word : String) :
    function.holds line word = matchesAnywhere (plainFunctionPieces word.toList) line.toList :=
  matchesAnywhere_congr (fun _ => spells_functionPieces) line.toList

theorem spells_plainValuePieces {word text : List Char} :
    Spells (plainValuePieces word) text ↔
      ∃ inner rest,
        text = ['\x7b', '\x7b'] ++ inner ++ ['.'] ++ word ++ rest ++ ['\x7d', '\x7d'] ∧
          '\x7d' ∉ inner ∧ '\x7b' ∉ rest := by
  unfold plainValuePieces notClosing notOpening
  simp only [spells_literal, spells_many_bne, spells_nil]
  constructor
  · rintro ⟨_, rfl, inner, _, rfl, unclosed, _, rfl, _, rfl, rest, _, rfl, unopened, _, rfl, rfl⟩
    exact ⟨inner, rest, by simp, unclosed, unopened⟩
  · rintro ⟨inner, rest, rfl, unclosed, unopened⟩
    exact ⟨inner ++ (['.'] ++ (word ++ (rest ++ ['\x7d', '\x7d']))), by simp, inner, _, rfl, unclosed,
      _, rfl, _, rfl, rest, _, rfl, unopened, [], rfl, rfl⟩

theorem spells_plainFunctionPieces {word text : List Char} :
    Spells (plainFunctionPieces word) text ↔
      ∃ inner blank rest,
        text = ['\x7b', '\x7b'] ++ inner ++ word ++ blank :: (rest ++ ['\x7d', '\x7d']) ∧
          '\x7d' ∉ inner ∧ isBlank blank = true ∧ '\x7b' ∉ rest := by
  unfold plainFunctionPieces notClosing notOpening
  simp only [spells_literal, spells_many_bne, spells_one, spells_nil]
  constructor
  · rintro ⟨_, rfl, inner, _, rfl, unclosed, _, rfl, blank, _, rfl, isWhite, rest, _, rfl, unopened, _,
      rfl, rfl⟩
    exact ⟨inner, blank, rest, by simp, unclosed, isWhite, unopened⟩
  · rintro ⟨inner, blank, rest, rfl, unclosed, isWhite, unopened⟩
    exact ⟨inner ++ (word ++ blank :: (rest ++ ['\x7d', '\x7d'])), by simp, inner, _, rfl, unclosed, _,
      rfl, blank, _, rfl, isWhite, rest, _, rfl, unopened, [], rfl, rfl⟩

/-- A word is in value position on a line exactly if one of its occurrences is. -/
theorem value_holds_iff {line word : String} :
    value.holds line word = true ↔
      ∃ before after, line.toList = before ++ word.toList ++ after ∧ ValuePosition before after := by
  simp only [value_holds_eq, matchesAnywhere_iff, spells_plainValuePieces]
  constructor
  · rintro ⟨front, _, back, split, inner, rest, rfl, unclosed, unopened⟩
    refine ⟨_, _, ?_, front, inner, rest, back, rfl, unclosed, rfl, unopened⟩
    simpa using split
  · rintro ⟨_, _, split, front, inner, rest, back, rfl, unclosed, rfl, unopened⟩
    refine ⟨front, _, back, ?_, inner, rest, rfl, unclosed, unopened⟩
    simpa using split

/-- A word is in function position on a line exactly if one of its occurrences is. -/
theorem function_holds_iff {line word : String} :
    function.holds line word = true ↔
      ∃ before after, line.toList = before ++ word.toList ++ after ∧
        FunctionPosition before after := by
  simp only [function_holds_eq, matchesAnywhere_iff, spells_plainFunctionPieces]
  constructor
  · rintro ⟨front, _, back, split, inner, blank, rest, rfl, unclosed, isWhite, unopened⟩
    refine ⟨_, _, ?_, front, inner, blank, rest, back, rfl, unclosed, isWhite, rfl, unopened⟩
    simpa using split
  · rintro ⟨_, _, split, front, inner, blank, rest, back, rfl, unclosed, isWhite, rfl, unopened⟩
    refine ⟨front, _, back, ?_, inner, blank, rest, rfl, unclosed, isWhite, unopened⟩
    simpa using split

/-- What the two tests for actions mean: one occurrence of the word, taken literally, lies between
double braces that no brace of the other kind cuts off, with a point before it or white space behind
it. The characters that may stand around the word besides change nothing. -/
theorem action_contexts_split (line word : String) :
    (value.holds line word = true ↔
      ∃ front inner rest back : String,
        line = front ++ "\x7b\x7b" ++ inner ++ "." ++ word ++ rest ++ "\x7d\x7d" ++ back ∧
          '\x7d' ∉ inner.toList ∧ '\x7b' ∉ rest.toList) ∧
    (function.holds line word = true ↔
      ∃ (front inner : String) (blank : Char) (rest back : String),
        line = front ++ "\x7b\x7b" ++ inner ++ word ++ String.singleton blank ++ rest ++
            "\x7d\x7d" ++ back ∧
          isBlank blank = true ∧ '\x7d' ∉ inner.toList ∧ '\x7b' ∉ rest.toList) ∧
    value.holds line word = matchesAnywhere (plainValuePieces word.toList) line.toList ∧
    function.holds line word = matchesAnywhere (plainFunctionPieces word.toList) line.toList := by
  refine ⟨?_, ?_, value_holds_eq line word, function_holds_eq line word⟩
  · rw [value_holds_iff]
    constructor
    · rintro ⟨_, _, split, front, inner, rest, back, rfl, unclosed, rfl, unopened⟩
      refine ⟨.ofList front, .ofList inner, .ofList rest, .ofList back, ?_, by simpa, by simpa⟩
      apply String.toList_injective
      simpa using split
    · rintro ⟨front, inner, rest, back, rfl, unclosed, unopened⟩
      refine ⟨_, _, ?_, front.toList, inner.toList, rest.toList, back.toList, rfl, unclosed, rfl,
        unopened⟩
      simp
  · rw [function_holds_iff]
    constructor
    · rintro ⟨_, _, split, front, inner, blank, rest, back, rfl, unclosed, isWhite, rfl, unopened⟩
      refine ⟨.ofList front, .ofList inner, blank, .ofList rest, .ofList back, ?_, isWhite, by simpa,
        by simpa⟩
      apply String.toList_injective
      simpa using split
    · rintro ⟨front, inner, blank, rest, back, rfl, isWhite, unclosed, unopened⟩
      refine ⟨_, _, ?_, front.toList, inner.toList, blank, rest.toList, back.toList, rfl, unclosed,
        isWhite, rfl, unopened⟩
      simp

end TemplateHover.Context
