import TemplateHover.Text.Pattern

namespace TemplateHover

/-- The texts that a piece of a pattern stands for. -/
def Piece.Covers : Piece → List Char → Prop
  | .literal text, part => part = text
  | .one kind, part => ∃ c, kind c = true ∧ part = [c]
  | .optional kind, part => part = [] ∨ ∃ c, kind c = true ∧ part = [c]
  | .many kind, part => ∀ c ∈ part, kind c = true

/-- The texts that pieces stand for in their order. Nothing is said here of how a run is found. -/
def Spells : List Piece → List Char → Prop
  | [], text => text = []
  | piece :: pieces, text =>
    ∃ part rest, text = part ++ rest ∧ piece.Covers part ∧ Spells pieces rest

@[simp]
theorem spells_nil {text : List Char} : Spells [] text ↔ text = [] :=
  Iff.rfl

@[simp]
theorem spells_literal {literal text : List Char} {pieces : List Piece} :
    Spells (.literal literal :: pieces) text ↔
      ∃ rest, text = literal ++ rest ∧ Spells pieces rest := by
  constructor
  · rintro ⟨_, rest, rfl, rfl, spelled⟩
    exact ⟨rest, rfl, spelled⟩
  · rintro ⟨rest, rfl, spelled⟩
    exact ⟨literal, rest, rfl, rfl, spelled⟩

@[simp]
theorem spells_one {kind : Char → Bool} {text : List Char} {pieces : List Piece} :
    Spells (.one kind :: pieces) text ↔
      ∃ c rest, text = c :: rest ∧ kind c = true ∧ Spells pieces rest := by
  constructor
  · rintro ⟨_, rest, rfl, ⟨c, ofKind, rfl⟩, spelled⟩
    exact ⟨c, rest, rfl, ofKind, spelled⟩
  · rintro ⟨c, rest, rfl, ofKind, spelled⟩
    exact ⟨[c], rest, rfl, ⟨c, ofKind, rfl⟩, spelled⟩

/-- A run of any characters but one. -/
theorem spells_many_bne {barred : Char} {text : List Char} {pieces : List Piece} :
    Spells (.many (· != barred) :: pieces) text ↔
      ∃ run rest, text = run ++ rest ∧ barred ∉ run ∧ Spells pieces rest := by
  have covers (run : List Char) : (Piece.many (· != barred)).Covers run ↔ barred ∉ run := by
    simp only [Piece.Covers, bne_iff_ne]
    constructor
    · intro each member
      exact each barred member rfl
    · intro absent c member same
      exact absent (same ▸ member)
  simp only [Spells, covers]

theorem covers_many_append {kind : Char → Bool} {left right : List Char} :
    (Piece.many kind).Covers (left ++ right) ↔
      (Piece.many kind).Covers left ∧ (Piece.many kind).Covers right :=
  List.forall_mem_append

theorem bne_of_kind {kind : Char → Bool} {barred : Char} (refused : kind barred = false) (c : Char)
    (ofKind : kind c = true) : (c != barred) = true := by
  refine bne_iff_ne.mpr ?_
  rintro rfl
  cases refused.symm.trans ofKind

theorem Piece.Covers.many_of_optional {run kind : Char → Bool} {part : List Char}
    (covered : (Piece.optional kind).Covers part) (within : ∀ c, kind c = true → run c = true) :
    (Piece.many run).Covers part := by
  intro c member
  rcases covered with rfl | ⟨d, ofKind, rfl⟩
  · cases member
  · cases List.mem_singleton.mp member
    exact within c ofKind

/-- A run takes in a character that may follow it or not. -/
theorem spells_many_optional {run kind : Char → Bool} (within : ∀ c, kind c = true → run c = true)
    {pieces : List Piece} {text : List Char} :
    Spells (.many run :: .optional kind :: pieces) text ↔ Spells (.many run :: pieces) text := by
  constructor
  · rintro ⟨part, _, rfl, covered, last, rest, rfl, optional, spelled⟩
    have together := covers_many_append.mpr ⟨covered, optional.many_of_optional within⟩
    exact ⟨part ++ last, rest, by simp, together, spelled⟩
  · rintro ⟨part, rest, rfl, covered, spelled⟩
    exact ⟨part, rest, rfl, covered, [], rest, rfl, Or.inl rfl, spelled⟩

/-- A run takes in a character that may come before it or not. -/
theorem spells_optional_many {run kind : Char → Bool} (within : ∀ c, kind c = true → run c = true)
    {pieces : List Piece} {text : List Char} :
    Spells (.optional kind :: .many run :: pieces) text ↔ Spells (.many run :: pieces) text := by
  constructor
  · rintro ⟨first, _, rfl, optional, part, rest, rfl, covered, spelled⟩
    have together := covers_many_append.mpr ⟨optional.many_of_optional within, covered⟩
    exact ⟨first ++ part, rest, by simp, together, spelled⟩
  · rintro ⟨part, rest, rfl, covered, spelled⟩
    exact ⟨[], part ++ rest, rfl, Or.inl rfl, part, rest, rfl, covered, spelled⟩

/-- Pieces behind others may be replaced by pieces that stand for the same texts. -/
theorem spells_append_congr {back others : List Piece}
    (same : ∀ text, Spells back text ↔ Spells others text) (front : List Piece) (text : List Char) :
    Spells (front ++ back) text ↔ Spells (front ++ others) text := by
  induction front generalizing text with
  | nil => exact same text
  | cons piece front ih => simp only [List.cons_append, Spells, ih]

theorem afterOne_iff {kind : Char → Bool} {test : List Char → Bool} {line : List Char} :
    afterOne kind test line = true ↔
      ∃ c rest, line = c :: rest ∧ kind c = true ∧ test rest = true := by
  cases line with
  | nil => simp [afterOne]
  | cons c rest =>
    constructor
    · intro passed
      obtain ⟨ofKind, tested⟩ := Bool.and_eq_true_iff.mp passed
      exact ⟨c, rest, rfl, ofKind, tested⟩
    · rintro ⟨_, _, same, ofKind, tested⟩
      cases same
      exact Bool.and_eq_true_iff.mpr ⟨ofKind, tested⟩

theorem afterMany_iff {kind : Char → Bool} {test : List Char → Bool} {line : List Char} :
    afterMany kind test line = true ↔
      ∃ run rest, line = run ++ rest ∧ (∀ c ∈ run, kind c = true) ∧ test rest = true := by
  induction line with
  | nil =>
    constructor
    · intro passed
      exact ⟨[], [], rfl, by simp, passed⟩
    · rintro ⟨run, rest, empty, -, tested⟩
      obtain ⟨rfl, rfl⟩ := List.append_eq_nil_iff.mp empty.symm
      exact tested
  | cons c line ih =>
    simp only [afterMany, Bool.or_eq_true, Bool.and_eq_true, ih]
    constructor
    · rintro (tested | ⟨ofKind, run, rest, rfl, covered, tested⟩)
      · exact ⟨[], c :: line, rfl, by simp, tested⟩
      · refine ⟨c :: run, rest, rfl, ?_, tested⟩
        intro d member
        rcases List.mem_cons.mp member with rfl | inRun
        · exact ofKind
        · exact covered d inRun
    · rintro ⟨run, rest, same, covered, tested⟩
      cases run with
      | nil =>
        rw [List.nil_append] at same
        exact Or.inl (same ▸ tested)
      | cons d run =>
        cases same
        exact Or.inr ⟨covered c (by simp), run, rest, rfl,
          fun d member => covered d (List.mem_cons_of_mem c member), tested⟩

/-- One piece takes a part of the text that it stands for, and the others go on behind it. All parts
are tried, so an early choice never spoils a match. -/
theorem matchesAtStart_cons {piece : Piece} {pieces : List Piece} {line : List Char} :
    matchesAtStart (piece :: pieces) line = true ↔
      ∃ part rest, line = part ++ rest ∧ piece.Covers part ∧ matchesAtStart pieces rest = true := by
  cases piece with
  | literal text =>
    simp only [matchesAtStart, Bool.and_eq_true, List.isPrefixOf_iff_prefix, Piece.Covers]
    constructor
    · rintro ⟨⟨rest, rfl⟩, tested⟩
      rw [List.drop_left] at tested
      exact ⟨text, rest, rfl, rfl, tested⟩
    · rintro ⟨_, rest, rfl, rfl, tested⟩
      rw [List.drop_left]
      exact ⟨List.prefix_append _ rest, tested⟩
  | one kind =>
    simp only [matchesAtStart, afterOne_iff, Piece.Covers]
    constructor
    · rintro ⟨c, rest, rfl, ofKind, tested⟩
      exact ⟨[c], rest, rfl, ⟨c, ofKind, rfl⟩, tested⟩
    · rintro ⟨_, rest, rfl, ⟨c, ofKind, rfl⟩, tested⟩
      exact ⟨c, rest, rfl, ofKind, tested⟩
  | optional kind =>
    simp only [matchesAtStart, Bool.or_eq_true, afterOne_iff, Piece.Covers]
    constructor
    · rintro (tested | ⟨c, rest, rfl, ofKind, tested⟩)
      · exact ⟨[], line, rfl, Or.inl rfl, tested⟩
      · exact ⟨[c], rest, rfl, Or.inr ⟨c, ofKind, rfl⟩, tested⟩
    · rintro ⟨_, rest, rfl, rfl | ⟨c, ofKind, rfl⟩, tested⟩
      · exact Or.inl tested
      · exact Or.inr ⟨c, rest, rfl, ofKind, tested⟩
  | many kind => exact afterMany_iff

theorem matchesAtStart_iff {pieces : List Piece} {line : List Char} :
    matchesAtStart pieces line = true ↔ ∃ text rest, line = text ++ rest ∧ Spells pieces text := by
  induction pieces generalizing line with
  | nil => simp [matchesAtStart, Spells]
  | cons piece pieces ih =>
    rw [matchesAtStart_cons]
    constructor
    · rintro ⟨part, _, rfl, covered, tested⟩
      obtain ⟨text, rest, rfl, spelled⟩ := ih.mp tested
      exact ⟨part ++ text, rest, by simp, part, text, rfl, covered, spelled⟩
    · rintro ⟨_, rest, rfl, part, text, rfl, covered, spelled⟩
      exact ⟨part, text ++ rest, by simp, covered, ih.mpr ⟨text, rest, rfl, spelled⟩⟩

/-- The search finds a match exactly if some part of the line is spelled by the pieces. -/
theorem matchesAnywhere_iff {pieces : List Piece} {line : List Char} :
    matchesAnywhere pieces line = true ↔
      ∃ before text after, line = before ++ text ++ after ∧ Spells pieces text := by
  unfold matchesAnywhere
  rw [afterMany_iff]
  constructor
  · rintro ⟨before, _, rfl, -, tested⟩
    obtain ⟨text, after, rfl, spelled⟩ := matchesAtStart_iff.mp tested
    exact ⟨before, text, after, by simp, spelled⟩
  · rintro ⟨before, text, after, rfl, spelled⟩
    exact ⟨before, text ++ after, by simp, by simp, matchesAtStart_iff.mpr ⟨text, after, rfl, spelled⟩⟩

theorem matchesAnywhere_congr {pieces others : List Piece}
    (same : ∀ text, Spells pieces text ↔ Spells others text) (line : List Char) :
    matchesAnywhere pieces line = matchesAnywhere others line := by
  rw [Bool.eq_iff_iff, matchesAnywhere_iff, matchesAnywhere_iff]
  simp only [same]

end TemplateHover
