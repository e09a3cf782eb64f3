import Mathlib.Data.List.Infix
import TemplateHover.Proofs.LineLocality

namespace TemplateHover

/-- A text with a carriage return put before each of its line feeds. -/
def withReturns (text : List Char) : List Char :=
  text.flatMap fun c => if c = '\n' then ['\r', '\n'] else [c]

theorem withReturns_break (rest : List Char) :
    withReturns ('\n' :: rest) = '\r' :: '\n' :: withReturns rest :=
  rfl

theorem withReturns_cons {c : Char} (notBreak : c ≠ '\n') (rest : List Char) :
    withReturns (c :: rest) = c :: withReturns rest := by
  simp [withReturns, notBreak]

theorem head?_withReturns_ne_break (text : List Char) : (withReturns text).head? ≠ some '\n' := by
  cases text with
  | nil => simp [withReturns]
  | cons c rest =>
    by_cases isBreak : c = '\n'
    · subst isBreak
      simp [withReturns_break]
    · simp [withReturns_cons isBreak, isBreak]

/-- A character that ends no line joins the line behind it. -/
theorem lines_cons {c : Char} {rest : List Char} (notBreak : c ≠ '\n')
    (notReturn : c = '\r' → rest.head? ≠ some '\n') :
    lines (c :: rest) = (c :: (lines rest).headD []) :: (lines rest).tail := by
  rw [lines]
  · cases lines rest <;> rfl
  · exact notBreak
  · rintro tail isReturn rfl
    exact absurd rfl (notReturn isReturn)

/-- Carriage returns before the line feeds change no line, unless a line feed already has one. That
would no longer belong to the end of its line. -/
theorem lines_withReturns {text : List Char} (plain : ¬['\r', '\n'] <:+: text) :
    lines (withReturns text) = lines text := by
  induction text with
  | nil => rfl
  | cons c rest ih =>
    have same := ih fun inside => plain (List.infix_cons inside)
    by_cases isBreak : c = '\n'
    · subst isBreak
      rw [withReturns_break, lines, lines, same]
    · have notReturn : c = '\r' → rest.head? ≠ some '\n' := by
        rintro rfl next
        obtain ⟨tail, rfl⟩ := List.head?_eq_some_iff.mp next
        exact plain ⟨[], tail, rfl⟩
      rw [withReturns_cons isBreak, lines_cons isBreak fun _ => head?_withReturns_ne_break rest,
        lines_cons isBreak notReturn, same]

theorem not_break_mem_lines {text line : List Char} (member : line ∈ lines text) : '\n' ∉ line := by
  fun_induction lines text generalizing line with
  | case1 => cases member
  | case2 rest ih =>
    rcases List.mem_cons.mp member with rfl | behind
    · exact List.not_mem_nil
    · exact ih behind
  | case3 rest ih =>
    rcases List.mem_cons.mp member with rfl | behind
    · exact List.not_mem_nil
    · exact ih behind
  | case4 c rest notBreak notReturn alone ih =>
    obtain rfl := List.mem_singleton.mp member
    exact fun inside => notBreak (List.mem_singleton.mp inside).symm
  | case5 c rest notBreak notReturn first more split ih =>
    rw [split] at ih
    rcases List.mem_cons.mp member with rfl | behind
    · intro inside
      rcases List.mem_cons.mp inside with isBreak | later
      · exact notBreak isBreak.symm
      · exact ih List.mem_cons_self later
    · exact ih (List.mem_cons_of_mem first behind)

/-- How many lines a text has: one for each line feed, and one for the text behind the last of
them. -/
def lineCount (text : List Char) : Nat :=
  text.count '\n' + if text ≠ [] ∧ text.getLast? ≠ some '\n' then 1 else 0

theorem lineCount_break (rest : List Char) : lineCount ('\n' :: rest) = lineCount rest + 1 := by
  cases rest with
  | nil => rfl
  | cons d rest =>
    simp only [lineCount, List.count_cons_self, List.getLast?_cons_cons, ne_eq, reduceCtorEq,
      not_false_eq_true, true_and]
    omega

theorem lineCount_cons {c d : Char} {rest : List Char} (notBreak : c ≠ '\n') :
    lineCount (c :: d :: rest) = lineCount (d :: rest) := by
  simp [lineCount, List.count_cons, notBreak]

theorem lineCount_singleton {c : Char} (notBreak : c ≠ '\n') : lineCount [c] = 1 := by
  simp [lineCount, notBreak]

theorem lineCount_pos {text : List Char} (nonempty : text ≠ []) : 0 < lineCount text := by
  unfold lineCount
  by_cases ended : text.getLast? = some '\n'
  · have inside := List.count_pos_iff.mpr (List.mem_of_getLast? ended)
    omega
  · rw [if_pos ⟨nonempty, ended⟩]
    omega

theorem length_lines (text : List Char) : (lines text).length = lineCount text := by
  fun_induction lines text with
  | case1 => rfl
  | case2 rest ih => rw [lineCount_break, List.length_cons, ih]
  | case3 rest ih =>
    rw [lineCount_cons (by decide), lineCount_break, List.length_cons, ih]
  | case4 c rest notBreak notReturn alone ih =>
    cases rest with
    | nil => rw [lineCount_singleton notBreak, List.length_singleton]
    | cons d rest =>
      rw [alone, List.length_nil] at ih
      have positive := lineCount_pos (List.cons_ne_nil d rest)
      omega
  | case5 c rest notBreak notReturn first more split ih =>
    cases rest with
    | nil => cases split
    | cons d rest => rw [lineCount_cons notBreak, ← ih, split, List.length_cons, List.length_cons]

theorem Document.isSome_line (document : Document) (number : UInt32) :
    (document.line number).isSome = true ↔ number.toNat < lineCount document.text.toList := by
  rw [Document.line, Option.isSome_map, ← length_lines]
  simp

theorem Document.not_break_mem_line {document : Document} {number : UInt32} {line : String}
    (present : document.line number = some line) : '\n' ∉ line.toList := by
  obtain ⟨text, atLine, rfl⟩ := Option.map_eq_some_iff.mp present
  rw [String.toList_ofList]
  exact not_break_mem_lines (List.mem_of_getElem? atLine)

/-- The ends of lines are not seen. A text whose line feeds have no carriage return before them
gives the same lines, words, ranges and tooltips when all of them get one. No line holds a line
feed, and a text has a line for each of them and one for what follows the last. -/
theorem line_ends_unseen (text : String) (version otherVersion : Int32) :
    let document : Document := ⟨text, version⟩
    let other : Document := ⟨String.ofList (withReturns text.toList), otherVersion⟩
    (¬['\r', '\n'] <:+: text.toList →
      (∀ number, other.line number = document.line number) ∧
      (∀ position, other.wordRangeAt position = document.wordRangeAt position) ∧
      (∀ position, other.wordAt position = document.wordAt position) ∧
      (∀ range, other.textIn range = document.textIn range) ∧
      ∀ (provider : Provider) (position : Position),
        (provider.resolve other position).tooltip? =
          (provider.resolve document position).tooltip? ∧
        ∀ (σ : Type) (locate : KeyLocator (StateM σ)) (state : σ),
          ((provider.resolveM locate other position).run state).1.tooltip? =
            ((provider.resolveM locate document position).run state).1.tooltip?) ∧
    (∀ number line, document.line number = some line → '\n' ∉ line.toList) ∧
    ∀ number, (document.line number).isSome = true ↔ number.toNat < lineCount text.toList := by
  intro document other
  refine ⟨?_, fun number line => Document.not_break_mem_line, document.isSome_line⟩
  intro plain
  have sameLine (number : UInt32) : other.line number = document.line number := by
    rw [Document.line, Document.line, String.toList_ofList, lines_withReturns plain]
  refine ⟨sameLine, ?_, ?_, ?_, ?_⟩
  · intro position
    exact Document.wordRangeAt_congr (sameLine position.line)
  · intro position
    exact Document.wordAt_congr (sameLine position.line)
  · intro range
    exact Document.textIn_congr (sameLine range.start.line)
  · intro provider position
    have samePlan := provider.plan_congr (sameLine position.line)
    refine ⟨?_, ?_⟩
    · rw [Provider.tooltip?_resolve, Provider.tooltip?_resolve, samePlan]
    · intro σ locate state
      rw [Provider.tooltip?_run, Provider.tooltip?_run, samePlan]

/-- A text with an empty line, a carriage return inside a line and one at the end of its last line,
which is kept. -/
theorem line_ends_unseen_stray_returns :
    let text := "a: 1\n\n\x7b\x7b quote .x \x7d\x7d\rb\nlast\r"
    let other : Document := ⟨String.ofList (withReturns text.toList), 2⟩
    ¬['\r', '\n'] <:+: text.toList ∧
      other.wordAt ⟨2, 4⟩ = some ("quote", ⟨⟨2, 3⟩, ⟨2, 8⟩⟩) ∧
      other.line 3 = some "last\r" := by
  intro text other
  have plain : ¬['\r', '\n'] <:+: text.toList := by decide +kernel
  obtain ⟨unseen, -, -⟩ := line_ends_unseen text 1 2
  obtain ⟨sameLine, -, sameWord, -⟩ := unseen plain
  refine ⟨plain, (sameWord ⟨2, 4⟩).trans ?_, (sameLine 3).trans ?_⟩
  · decide +kernel
  · decide +kernel

end TemplateHover
