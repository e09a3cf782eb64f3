import TemplateHover.Proofs.FlatScan
import TemplateHover.Proofs.KeyPosition

namespace TemplateHover.Yaml

namespace FlatEntry

/-- The scalar of the key of an entry whose line starts at a mark. -/
def keyScalar (entry : FlatEntry) (mark : Mark) : Scalar :=
  ⟨entry.key, .plain, mark⟩

/-- The scalar of the value of an entry whose line starts at a mark. A missing value stands where the
next line starts. -/
def valueScalar (entry : FlatEntry) (mark : Mark) : Scalar :=
  ⟨entry.value, .plain,
    if entry.value = "" then entry.below mark else mark.right (entry.key.length + 2)⟩

end FlatEntry

/-- The pairs of the entries from a mark on. -/
def flatPairs : Mark → List FlatEntry → List (Node × Node)
  | _, [] => []
  | mark, entry :: entries =>
    (.scalar (entry.keyScalar mark), .scalar (entry.valueScalar mark)) ::
      flatPairs (entry.below mark) entries

theorem length_flatTokens (mark : Mark) (entries : List FlatEntry) :
    3 * entries.length + 2 ≤ (flatTokens mark entries).length := by
  induction entries generalizing mark with
  | nil => exact Nat.le_refl 2
  | cons entry entries ih =>
    have behind := ih (entry.below mark)
    simp only [flatTokens, FlatEntry.tokens, FlatEntry.keyTokens, List.length_append,
      List.length_cons]
    omega

/-- The first token of the entries from a mark on stands at that mark and ends a value before it. -/
theorem exists_flatTokens_head (mark : Mark) (entries : List FlatEntry) :
    ∃ kind rest, flatTokens mark entries = ⟨mark, kind⟩ :: rest ∧
      Parse.endsBlockNode kind = true := by
  cases entries with
  | nil => exact ⟨.blockEnd, _, rfl, rfl⟩
  | cons entry entries => exact ⟨.key, _, rfl, rfl⟩

namespace Parse

theorem run_of_reach {tokens : List Token} {goal : Goal} {goals : List Goal} {next : Parse}
    {event : Event} {events : List Event} {fuel : Nat}
    (step : reach ⟨tokens, goal :: goals, [], none⟩ goal goals = .ok (event, next))
    (behind : next.run fuel = .ok events) :
    run (fuel + 1) ⟨tokens, goal :: goals, [], none⟩ = .ok (event :: events) := by
  rw [run]
  simp only [step, behind]

theorem reach_blockKey (mark : Mark) (name : String) (rest : List Token) (goals : List Goal) :
    (Parse.mk (⟨mark, .key⟩ :: ⟨mark, .scalar .plain name⟩ :: rest) (.blockKey :: goals) [] none).reach
        .blockKey goals =
      .ok (.scalar ⟨name, .plain, mark⟩, ⟨rest, .blockValue :: .blockKey :: goals, [], none⟩) := by
  simp [reach, blockNode, endsBlockNode, node, properties, content, emit]

theorem reach_blockValue (colon mark : Mark) (text : String) (rest : List Token)
    (goals : List Goal) :
    (Parse.mk (⟨colon, .value⟩ :: ⟨mark, .scalar .plain text⟩ :: rest) (.blockValue :: goals) []
        none).reach .blockValue goals =
      .ok (.scalar ⟨text, .plain, mark⟩, ⟨rest, goals, [], none⟩) := by
  simp [reach, blockNode, endsBlockNode, node, properties, content, emit]

/-- A missing value is a scalar at the token behind the colon. -/
theorem reach_blockValue_missing (colon mark : Mark) {kind : TokenKind}
    (ends : endsBlockNode kind = true) (rest : List Token) (goals : List Goal) :
    (Parse.mk (⟨colon, .value⟩ :: ⟨mark, kind⟩ :: rest) (.blockValue :: goals) [] none).reach
        .blockValue goals =
      .ok (.scalar ⟨"", .plain, mark⟩, ⟨⟨mark, kind⟩ :: rest, goals, [], none⟩) := by
  simp [reach, blockNode, ends, emitEmpty, emit]

/-- The tokens of an entry give the scalars of its key and of its value. -/
theorem run_entry (entry : FlatEntry) (entries : List FlatEntry) (mark : Mark) {goals : List Goal}
    {events : List Event} {fuel : Nat}
    (behind : run fuel ⟨flatTokens (entry.below mark) entries, .blockKey :: goals, [], none⟩ =
      .ok events) :
    run (fuel + 2) ⟨flatTokens mark (entry :: entries), .blockKey :: goals, [], none⟩ =
      .ok (.scalar (entry.keyScalar mark) :: .scalar (entry.valueScalar mark) :: events) := by
  have value : run (fuel + 1)
      ⟨⟨mark.right entry.key.length, .value⟩ ::
        ((if entry.value = "" then []
          else [⟨mark.right (entry.key.length + 2), .scalar .plain entry.value⟩]) ++
          flatTokens (entry.below mark) entries),
        .blockValue :: .blockKey :: goals, [], none⟩ =
      .ok (.scalar (entry.valueScalar mark) :: events) := by
    rw [FlatEntry.valueScalar]
    split
    · rename_i missing
      obtain ⟨kind, rest, tokensEq, ends⟩ := exists_flatTokens_head (entry.below mark) entries
      rw [tokensEq] at behind
      rw [tokensEq, missing]
      exact run_of_reach (reach_blockValue_missing _ _ ends rest _) behind
    · exact run_of_reach (reach_blockValue _ _ _ _ _) behind
  exact run_of_reach (reach_blockKey _ _ _ _) value

/-- From an opened mapping the entries give their pairs, and the ends behind them follow. -/
theorem run_flatTokens (entries : List FlatEntry) (mark : Mark) (fuel : Nat) :
    run (fuel + 4 + 2 * entries.length)
        ⟨flatTokens mark entries, [.blockKey, .documentEnd], [], none⟩ =
      .ok (Node.pairEvents (flatPairs mark entries) ++ [.mappingEnd, .documentEnd, .streamEnd]) := by
  induction entries generalizing mark with
  | nil => rfl
  | cons entry entries ih =>
    have step := run_entry entry entries mark (ih (entry.below mark))
    rw [List.length_cons, Nat.mul_succ, ← Nat.add_assoc, step]
    simp [flatPairs, Node.pairEvents, Node.events]

end Parse

/-- The events of the text of a flat mapping are those of a stream of one document, whose root is the
mapping. -/
theorem events_flatText {entries : List FlatEntry} (nonempty : entries ≠ []) :
    events (flatText entries) = .ok (Node.streamEvents [.mapping (flatPairs ⟨1, 0, 0⟩ entries)]) := by
  obtain ⟨entry, entries, rfl⟩ := List.exists_cons_of_ne_nil nonempty
  let start : Mark := ⟨1, 0, 0⟩
  let mapping := flatTokens start (entry :: entries)
  let tokens : List Token := ⟨start, .streamStart⟩ ::
    ⟨start.right entry.key.length, .blockMappingStart⟩ :: mapping
  have scanned : scan (flatText (entry :: entries)).toList = .ok tokens := by
    rw [flatText, String.toList_ofList]
    exact scan_flatLines entry entries
  have longEnough : 3 * (entry :: entries).length + 2 ≤ mapping.length :=
    length_flatTokens start (entry :: entries)
  obtain ⟨fuel, fuelEq⟩ : ∃ fuel, 8 * tokens.length + 8 =
      fuel + 4 + 2 * (entry :: entries).length + 1 + 1 + 1 :=
    ⟨8 * tokens.length + 1 - 2 * (entry :: entries).length, by
      simp only [tokens, List.length_cons] at longEnough ⊢
      omega⟩
  have root : Parse.run _ ⟨tokens.tail, [.bareRoot, .documentEnd], [], none⟩ = _ :=
    Parse.run_of_reach rfl (Parse.run_flatTokens (entry :: entries) start fuel)
  have document : Parse.run _ ⟨tokens.tail, [.bareDocument], [], none⟩ = _ :=
    Parse.run_of_reach rfl root
  have stream : Parse.run _ ⟨tokens, [.stream], [], none⟩ = _ := Parse.run_of_reach rfl document
  rw [events, scanned]
  simp only [eventsOfTokens, fuelEq, stream]
  simp [Node.streamEvents, Node.documentEvents, Node.events, start]

theorem lines_append_break {text : List Char} (each : ∀ c ∈ text, c ≠ '\r' ∧ c ≠ '\n')
    (rest : List Char) : lines (text ++ '\n' :: rest) = text :: lines rest := by
  induction text with
  | nil => rfl
  | cons c text ih =>
    obtain ⟨notReturn, notBreak⟩ := each c (by simp)
    rw [List.cons_append, lines, ih fun d member => each d (List.mem_cons_of_mem c member)]
    · exact notBreak
    · intro _ carriageReturn
      exact absurd carriageReturn notReturn

theorem lines_flatLines (entries : List FlatEntry) :
    lines (flatLines entries) = entries.map fun entry => entry.line.toList := by
  induction entries with
  | nil => rfl
  | cons entry entries ih =>
    rw [flatLines_cons, lines_append_break fun c member => (entry.each_line c member).2, ih,
      List.map_cons]

theorem unitCount_of_isAlpha {c : Char} (letter : c.isAlpha = true) : unitCount c = 1 := by
  have small : c.toNat < 0x10000 := by
    rcases Bool.or_eq_true_iff.mp letter with upper | lower
    · have bound : c.val ≤ 'Z'.val := (of_decide_eq_true upper).2
      exact Nat.lt_of_le_of_lt (UInt32.le_iff_toNat_le.mp bound) (by decide)
    · have bound : c.val ≤ 'z'.val := of_decide_eq_true (Bool.and_eq_true_iff.mp lower).2
      exact Nat.lt_of_le_of_lt (UInt32.le_iff_toNat_le.mp bound) (by decide)
  rw [unitCount, if_pos small]

theorem widthUpTo_of_narrow {line : List Char} (narrow : ∀ c ∈ line, unitCount c = 1) {k : Nat}
    (within : k ≤ line.length) : widthUpTo line k = k := by
  induction line generalizing k with
  | nil =>
    obtain rfl := Nat.le_zero.mp within
    rfl
  | cons c line ih =>
    cases k with
    | zero => rfl
    | succ k =>
      have behind := ih (fun d member => narrow d (List.mem_cons_of_mem c member))
        (Nat.le_of_succ_le_succ within)
      rw [widthUpTo] at behind ⊢
      rw [List.take_succ_cons, List.foldr_cons, behind, narrow c (by simp), Nat.add_comm]

theorem FlatEntry.widthUpTo_line (entry : FlatEntry) {k : Nat} (within : k ≤ entry.line.length) :
    widthUpTo entry.line.toList k = k := by
  apply widthUpTo_of_narrow _ (by rwa [String.length_toList])
  intro c member
  rcases mem_line member with letter | rfl | rfl
  · exact unitCount_of_isAlpha letter
  · rfl
  · rfl

section Covers

variable {texts : List (List Char)} {position : Position} {number : Nat} {mark : Mark}

theorem Scalar.covers_iff {scalar : Scalar} {line : List Char} (plain : scalar.style = .plain)
    (onLine : scalar.mark.line = number + 1) (atLine : texts[number]? = some line) :
    scalar.covers texts position = true ↔ number = position.line.toNat ∧
      widthUpTo line scalar.mark.column ≤ position.character.toNat ∧
      position.character.toNat ≤ widthUpTo line (scalar.mark.column + scalar.value.length) := by
  simp [covers, plain, onLine, atLine, and_assoc]

theorem Scalar.line_of_covers {scalar : Scalar} (onLine : scalar.mark.line = number + 1)
    (covered : scalar.covers texts position = true) :
    number = position.line.toNat := by
  simp only [covers, onLine] at covered
  split at covered
  · cases covered
  · simp only [Bool.and_eq_true, decide_eq_true_eq] at covered
    exact covered.1.1

/-- A key covers its line up to its colon. -/
theorem FlatEntry.covers_keyScalar {entry : FlatEntry} (onLine : mark.line = number + 1)
    (first : mark.column = 0) (atLine : texts[number]? = some entry.line.toList) :
    (entry.keyScalar mark).covers texts position = true ↔
      number = position.line.toNat ∧ position.character.toNat ≤ entry.key.length := by
  have within : entry.key.length ≤ entry.line.length := by
    rw [length_line]
    split <;> omega
  rw [Scalar.covers_iff rfl onLine atLine]
  simp only [keyScalar, first, Nat.zero_add, entry.widthUpTo_line within,
    entry.widthUpTo_line (Nat.zero_le _), Nat.zero_le, true_and]

theorem FlatEntry.line_below {entry : FlatEntry} (onLine : mark.line = number + 1) :
    (entry.below mark).line = number + 1 + 1 :=
  congrArg (· + 1) onLine

theorem FlatEntry.line_of_covers_valueScalar {entry : FlatEntry} (onLine : mark.line = number + 1)
    (covered : (entry.valueScalar mark).covers texts position = true) :
    (if entry.value = "" then number + 1 else number) = position.line.toNat := by
  apply Scalar.line_of_covers _ covered
  rw [valueScalar]
  split
  · exact line_below onLine
  · exact onLine

/-- A missing value covers the first column of the line behind it. -/
theorem FlatEntry.covers_valueScalar_missing {entry : FlatEntry} {line : List Char}
    (missing : entry.value = "") (onLine : mark.line = number + 1)
    (atNext : texts[number + 1]? = some line) :
    (entry.valueScalar mark).covers texts position = true ↔
      number + 1 = position.line.toNat ∧ position.character.toNat = 0 := by
  have below : (entry.valueScalar mark).mark = entry.below mark := if_pos missing
  have belowLine : (entry.valueScalar mark).mark.line = number + 1 + 1 := by
    rw [below]
    exact line_below onLine
  have narrow : (entry.valueScalar mark).value.length = 0 := by
    rw [valueScalar, missing]
    rfl
  rw [Scalar.covers_iff rfl belowLine atNext, below, narrow]
  simp [FlatEntry.below, Mark.down, widthUpTo]

theorem firstCovering_cons (covers : Scalar → Bool) (leaf : Scalar) (role : Role)
    (rest : List (Scalar × Role)) :
    firstCovering covers ((leaf, role) :: rest) =
      if covers leaf then some (decide (role = .key)) else firstCovering covers rest := by
  simp only [firstCovering, List.find?_cons]
  cases covers leaf <;> rfl

theorem pairScalars_flatPairs_cons (mark : Mark) (entry : FlatEntry) (entries : List FlatEntry) :
    Node.pairScalars (flatPairs mark (entry :: entries)) =
      (entry.keyScalar mark, .key) :: (entry.valueScalar mark, .value) ::
        Node.pairScalars (flatPairs (entry.below mark) entries) := by
  simp [flatPairs, Node.pairScalars, Node.scalars]

/-- The scalars of the lines behind that of a position do not cover it. -/
theorem firstCovering_flatPairs_behind {entries : List FlatEntry} (onLine : mark.line = number + 1)
    (behind : position.line.toNat < number) :
    firstCovering (·.covers texts position) (Node.pairScalars (flatPairs mark entries)) = none := by
  induction entries generalizing number mark with
  | nil => rfl
  | cons entry entries ih =>
    have rest := ih (entry.line_below onLine) (Nat.lt_succ_of_lt behind)
    have keyFree : (entry.keyScalar mark).covers texts position = false := by
      rw [← Bool.not_eq_true]
      intro covered
      have here := Scalar.line_of_covers onLine covered
      omega
    have valueFree : (entry.valueScalar mark).covers texts position = false := by
      rw [← Bool.not_eq_true]
      intro covered
      have here := entry.line_of_covers_valueScalar onLine covered
      split at here <;> omega
    rw [pairScalars_flatPairs_cons, firstCovering_cons, firstCovering_cons, keyFree, valueFree]
    exact rest

/-- Whether a line of a flat mapping follows an entry whose value is missing. -/
def followsMissing (entries : List FlatEntry) : Nat → Bool
  | 0 => false
  | number + 1 => entries[number]?.any fun entry => entry.value = ""

/-- The first scalar that covers a position is a key where the position is at a key, unless it is at
the start of the key and the value before that is missing. -/
theorem firstCovering_flatPairs {entries : List FlatEntry} {row : Nat}
    (onLine : mark.line = number + 1) (first : mark.column = 0)
    (textsEq : texts.drop number = entries.map fun entry => entry.line.toList)
    (rowEq : position.line.toNat = number + row) :
    firstCovering (·.covers texts position) (Node.pairScalars (flatPairs mark entries)) = some true ↔
      ∃ entry, entries[row]? = some entry ∧ position.character.toNat ≤ entry.key.length ∧
        ¬(position.character.toNat = 0 ∧ followsMissing entries row = true) := by
  induction entries generalizing number mark row with
  | nil => simp [flatPairs, Node.pairScalars, firstCovering_nil]
  | cons entry entries ih =>
    have atLine : texts[number]? = some entry.line.toList := by
      have head := congrArg List.head? textsEq
      simpa using head
    have textsBehind : texts.drop (number + 1) = entries.map fun entry => entry.line.toList := by
      have tail := congrArg List.tail textsEq
      simpa using tail
    have keyCovers : (entry.keyScalar mark).covers texts position = true ↔
        number = position.line.toNat ∧ position.character.toNat ≤ entry.key.length :=
      entry.covers_keyScalar onLine first atLine
    rw [pairScalars_flatPairs_cons, firstCovering_cons, firstCovering_cons]
    cases row with
    | zero =>
      have rest : firstCovering (·.covers texts position)
          (Node.pairScalars (flatPairs (entry.below mark) entries)) = none :=
        firstCovering_flatPairs_behind (entry.line_below onLine) (by omega)
      by_cases atKey : position.character.toNat ≤ entry.key.length
      · have covered := keyCovers.mpr ⟨rowEq.symm, atKey⟩
        simp [covered, atKey, followsMissing]
      · have free : ¬(entry.keyScalar mark).covers texts position = true :=
          fun covered => atKey (keyCovers.mp covered).2
        simp [free, rest, atKey]
    | succ row =>
      have free : ¬(entry.keyScalar mark).covers texts position = true := by
        intro covered
        have here := (keyCovers.mp covered).1
        omega
      have rest := ih (entry.line_below onLine) rfl textsBehind
        (show position.line.toNat = number + 1 + row by omega)
      have textBehind {next : FlatEntry} (atNext : entries[0]? = some next) :
          texts[number + 1]? = some next.line.toList := by
        have head := congrArg List.head? textsBehind
        simpa [List.head?_eq_getElem?, atNext] using head
      by_cases covered : (entry.valueScalar mark).covers texts position = true
      · -- only a missing value reaches this line, and no further than to its start
        have here := entry.line_of_covers_valueScalar onLine covered
        obtain ⟨missing, rfl⟩ : entry.value = "" ∧ row = 0 := by
          split at here
          · rename_i missing
            exact ⟨missing, by omega⟩
          · omega
        rw [if_neg free, if_pos covered]
        constructor
        · intro isKey
          cases isKey
        · rintro ⟨next, atNext, -, shown⟩
          have start := ((entry.covers_valueScalar_missing missing onLine
            (textBehind atNext)).mp covered).2
          exact absurd ⟨start, by simp [followsMissing, missing]⟩ shown
      · rw [if_neg free, if_neg covered, rest]
        cases row with
        | zero =>
          constructor
          · rintro ⟨next, atNext, atKey, -⟩
            refine ⟨next, atNext, atKey, ?_⟩
            rintro ⟨start, follows⟩
            have missing : entry.value = "" := by simpa [followsMissing] using follows
            exact covered ((entry.covers_valueScalar_missing missing onLine
              (textBehind atNext)).mpr ⟨rowEq.symm, start⟩)
          · rintro ⟨next, atNext, atKey, -⟩
            exact ⟨next, atNext, atKey, by simp [followsMissing]⟩
        | succ row => exact Iff.rfl

end Covers

/-- The search over a stream finds the first scalar that covers the position. -/
theorem KeySearch.found_run_streamEvents (covers : Scalar → Bool) (documents : List Node) :
    (run covers (Node.streamEvents documents)).found =
      firstCovering covers (documents.flatMap (Node.scalars .root)) := by
  unfold run Node.streamEvents start
  simp only [List.foldl_cons, List.foldl_append, step, foldl_documents, Option.none_or]
  rfl

/-- In a flat mapping the positions on a key are those of its line up to the colon, and no position
on another line. The first column of a key is left out when the value on the line before it is
missing, for a missing value is found in the place of the next key and before it. -/
theorem isInKey_flatText {entries : List FlatEntry} (nonempty : entries ≠ []) (position : Position) :
    ∃ answer, isInKey (flatText entries) position = .ok answer ∧
      (answer = true ↔ ∃ entry, entries[position.line.toNat]? = some entry ∧
        position.character.toNat ≤ entry.key.length ∧
        ¬(position.character.toNat = 0 ∧ followsMissing entries position.line.toNat = true)) := by
  have textsEq : (lines (flatText entries).toList).drop 0 =
      entries.map fun entry => entry.line.toList := by
    rw [List.drop_zero, flatText, String.toList_ofList, lines_flatLines]
  let covers (scalar : Scalar) : Bool := scalar.covers (lines (flatText entries).toList) position
  let pairs := flatPairs ⟨1, 0, 0⟩ entries
  have found : firstCovering covers (Node.pairScalars pairs) = some true ↔ _ :=
    firstCovering_flatPairs rfl rfl textsEq (Nat.zero_add position.line.toNat).symm
  have answered : isInKey (flatText entries) position =
      .ok ((firstCovering covers (Node.pairScalars pairs)).getD false) := by
    have search := KeySearch.found_run_streamEvents covers [.mapping pairs]
    rw [List.flatMap_singleton, Node.scalars] at search
    rw [isInKey, events_flatText nonempty]
    simp only [← search]
    rfl
  refine ⟨_, answered, ?_⟩
  rw [← found]
  cases firstCovering covers (Node.pairScalars pairs) <;> simp

/-- Two entries, of which the first has no value. -/
def missingFirst : List FlatEntry :=
  [⟨"a", "", by decide, by decide, List.all_eq_true.mp rfl, List.all_eq_true.mp rfl⟩,
    ⟨"b", "x", by decide, by decide, List.all_eq_true.mp rfl, List.all_eq_true.mp rfl⟩]

theorem isInKey_flatText_missingFirst :
    missingFirst ≠ [] ∧ isInKey (flatText missingFirst) ⟨1, 1⟩ = .ok true := by
  have nonempty : missingFirst ≠ [] := by decide
  obtain ⟨answer, answered, isKey⟩ := isInKey_flatText nonempty ⟨1, 1⟩
  have behindStart : answer = true := isKey.mpr ⟨missingFirst[1], rfl, by decide, by decide⟩
  rw [answered, behindStart]
  exact ⟨nonempty, rfl⟩

/-- The start of a key is not found behind a missing value, though it is behind any other. -/
theorem missing_value_hides_next_key :
    flatText missingFirst = "a:\nb: x\n" ∧ isInKey "a:\nb: x\n" ⟨1, 0⟩ = .ok false ∧
      isInKey "a: x\nb: x\n" ⟨1, 0⟩ = .ok true :=
  ⟨by decide +kernel, rfl, rfl⟩

end TemplateHover.Yaml
