import TemplateHover.Hover.Provider
import TemplateHover.Proofs.CursorWord

namespace TemplateHover

/-- A locator that also notes the questions it is asked, in their order. The state of the locator
itself may be anything. -/
def recording {σ : Type} (locate : KeyLocator (StateM σ)) :
    KeyLocator (StateM (List (String × Position) × σ)) := fun text position => do
  let (asked, state) ← get
  let (answer, after) := (locate text position).run state
  set (asked ++ [(text, position)], after)
  return answer

/-- What is known of a position before the locator is asked: the outcome, or that it hangs on the
question whether a word outside of all actions is a key. -/
inductive Plan where
  | settled (resolution : Resolution)
  | ask (word : String)

/-- The outcome of a plan, with the question to ask if it needs one. -/
def Plan.run {m : Type → Type} [Monad m] (question : m (Except Yaml.Fault Bool)) :
    Plan → m Resolution
  | .settled resolution => pure resolution
  | .ask word => Provider.outsideResolution word <$> question

namespace Provider

/-- A word behind a point in an action that names a value. -/
def NamesValue (provider : Provider) (line word : String) : Prop :=
  Context.value.holds line word = true ∧ (provider.table.value? word).isSome = true

/-- A word of its own in an action that names a function. -/
def NamesFunction (provider : Provider) (line word : String) : Prop :=
  Context.function.holds line word = true ∧ (provider.table.function? word).isSome = true

/-- The symbol that a word of a line names. Values come before functions. -/
def symbol? (provider : Provider) (line word : String) : Option Symbol :=
  let value? := if Context.value.holds line word then provider.table.value? word else none
  let function? := if Context.function.holds line word then provider.table.function? word else none
  value?.or function?

theorem symbol?_of_value {provider : Provider} {line word : String} {symbol : Symbol}
    (behindPoint : Context.value.holds line word = true)
    (named : provider.table.value? word = some symbol) :
    provider.symbol? line word = some symbol := by
  simp only [symbol?, behindPoint, named, if_true, Option.some_or]

theorem symbol?_of_not_namesValue {provider : Provider} {line word : String}
    (noValue : ¬provider.NamesValue line word) :
    provider.symbol? line word =
      if Context.function.holds line word then provider.table.function? word else none := by
  have missing : (if Context.value.holds line word then provider.table.value? word else none) =
      none := by
    split
    · rename_i behindPoint
      rw [← Option.not_isSome_iff_eq_none]
      exact fun named => noValue ⟨behindPoint, named⟩
    · rfl
  simp only [symbol?, missing, Option.none_or]

theorem symbol?_eq_none {provider : Provider} {line word : String}
    (noValue : ¬provider.NamesValue line word) (noFunction : ¬provider.NamesFunction line word) :
    provider.symbol? line word = none := by
  rw [symbol?_of_not_namesValue noValue]
  split
  · rename_i ownWord
    rw [← Option.not_isSome_iff_eq_none]
    exact fun named => noFunction ⟨ownWord, named⟩
  · rfl

/-- The plan for a word of a line. -/
def wordPlan (provider : Provider) (line word : String) (range : Range) : Plan :=
  match provider.symbol? line word with
  | some symbol => .settled (.found (symbol.tooltip provider.language range))
  | none =>
    if Context.outsideAction.holds line word then .ask word else .settled (.miss word)

/-- The plan for a position of a document. -/
def plan (provider : Provider) (document : Document) (position : Position) : Plan :=
  match document.wordAt position, document.line position.line with
  | some (word, range), some line => provider.wordPlan line word range
  | _, _ => .settled .noWord

theorem wordPlan_of_symbol {provider : Provider} {line word : String} {symbol : Symbol}
    (named : provider.symbol? line word = some symbol) (range : Range) :
    provider.wordPlan line word range =
      .settled (.found (symbol.tooltip provider.language range)) := by
  simp only [wordPlan, named]

theorem wordPlan_of_no_symbol {provider : Provider} {line word : String}
    (unnamed : provider.symbol? line word = none) (range : Range) :
    provider.wordPlan line word range =
      if Context.outsideAction.holds line word then .ask word else .settled (.miss word) := by
  simp only [wordPlan, unnamed]

theorem plan_of_no_word {document : Document} {position : Position}
    (missing : document.wordAt position = none) (provider : Provider) :
    provider.plan document position = .settled .noWord := by
  simp only [plan, missing]

theorem plan_of_word {document : Document} {position : Position} {line word : String}
    {range : Range} (found : document.wordAt position = some (word, range))
    (present : document.line position.line = some line) (provider : Provider) :
    provider.plan document position = provider.wordPlan line word range := by
  simp only [plan, found, present]

/-- The contexts in their order carry out the plan of a word. So the locator is asked at most once,
and only about a word that names no symbol. -/
theorem resolveIn_order {m : Type → Type} [Monad m] (provider : Provider) (locate : KeyLocator m)
    (document : Document) (position : Position) (line word : String) (range : Range) :
    provider.resolveIn locate document position line word range Context.order =
      (provider.wordPlan line word range).run (locate document.text position) := by
  simp only [Context.order, resolveIn, wordPlan, symbol?]
  -- both sides compute once the three tests and the two look-ups are known
  cases Context.value.holds line word <;> cases Context.function.holds line word <;>
    cases Context.outsideAction.holds line word <;> cases provider.table.value? word <;>
    cases provider.table.function? word <;> rfl

theorem resolveM_eq_plan {m : Type → Type} [Monad m] (provider : Provider)
    (locate : KeyLocator m) (document : Document) (position : Position) :
    provider.resolveM locate document position =
      (provider.plan document position).run (locate document.text position) := by
  unfold resolveM plan
  cases document.wordAt position with
  | none => rfl
  | some pair =>
    cases document.line position.line with
    | none => rfl
    | some line => exact resolveIn_order provider locate document position line _ _

theorem outsideResolution_ne_noWord (word : String) (answer : Except Yaml.Fault Bool) :
    outsideResolution word answer ≠ .noWord := by
  cases answer with
  | error fault => exact Resolution.noConfusion
  | ok isKey => cases isKey <;> exact Resolution.noConfusion

/-- A word always gives an outcome other than that there is none, whatever the locator says. -/
theorem run_wordPlan_ne_noWord {σ : Type} (provider : Provider) (line word : String)
    (range : Range) (question : StateM σ (Except Yaml.Fault Bool)) (state : σ) :
    (((provider.wordPlan line word range).run question).run state).1 ≠ .noWord := by
  intro silent
  cases named : provider.symbol? line word with
  | some symbol =>
    rw [wordPlan_of_symbol named] at silent
    cases silent
  | none =>
    rw [wordPlan_of_no_symbol named] at silent
    split at silent
    · exact outsideResolution_ne_noWord word _ silent
    · cases silent

/-- Noting the questions changes neither what is shown nor what the locator goes through. -/
theorem run_recording {σ : Type} (provider : Provider) (locate : KeyLocator (StateM σ))
    (document : Document) (position : Position) (asked : List (String × Position)) (state : σ) :
    let outcome : Resolution × List (String × Position) × σ :=
      (provider.resolveM (recording locate) document position).run (asked, state)
    (provider.resolveM locate document position).run state = (outcome.1, outcome.2.2) := by
  intro outcome
  simp only [outcome, resolveM_eq_plan]
  cases provider.plan document position with
  | settled resolution => rfl
  | ask word => rfl

/-- What a provider shows at a position, with every question that its locator is asked on the way
and the state the locator is left in. There is no word exactly if the document has none there, and
a word always has a line. A value comes before a function, and both come without a question. A word
outside of all actions costs one question about the whole text and the same position. No answer to
it is an error, not even a failed one. -/
theorem resolveM_dispatch {σ : Type} (provider : Provider) (locate : KeyLocator (StateM σ))
    (document : Document) (position : Position) (asked : List (String × Position)) (state : σ) :
    let outcome : Resolution × List (String × Position) × σ :=
      (provider.resolveM (recording locate) document position).run (asked, state)
    (provider.resolveM locate document position).run state = (outcome.1, outcome.2.2) ∧
      (outcome.1 = .noWord ↔ document.wordAt position = none) ∧
      (document.wordAt position = none → outcome = (.noWord, asked, state)) ∧
      ∀ word range, document.wordAt position = some (word, range) →
        ∃ line, document.line position.line = some line ∧
          (∀ symbol, Context.value.holds line word = true →
            provider.table.value? word = some symbol →
            outcome = (.found (symbol.tooltip provider.language range), asked, state)) ∧
          (∀ symbol, ¬provider.NamesValue line word → Context.function.holds line word = true →
            provider.table.function? word = some symbol →
            outcome = (.found (symbol.tooltip provider.language range), asked, state)) ∧
          (¬provider.NamesValue line word → ¬provider.NamesFunction line word →
            Context.outsideAction.holds line word = true →
            outcome.2 =
                (asked ++ [(document.text, position)],
                  ((locate document.text position).run state).2) ∧
              match ((locate document.text position).run state).1 with
              | .ok true => outcome.1 = .miss word
              | .ok false => outcome.1 = .plainValue word
              | .error fault => outcome.1 = .undeterminable word fault) ∧
          (¬provider.NamesValue line word → ¬provider.NamesFunction line word →
            ¬Context.outsideAction.holds line word = true →
            outcome = (.miss word, asked, state)) := by
  intro outcome
  have planned : outcome = ((provider.plan document position).run
      (recording locate document.text position)).run (asked, state) := by
    simp only [outcome, resolveM_eq_plan]
  refine ⟨run_recording provider locate document position asked state, ⟨?_, ?_⟩, ?_, ?_⟩
  · intro silent
    cases found : document.wordAt position with
    | none => rfl
    | some pair =>
      obtain ⟨line, present⟩ := Document.exists_line_of_wordAt found
      rw [planned, plan_of_word found present] at silent
      exact absurd silent (run_wordPlan_ne_noWord provider line _ _ _ _)
  · intro missing
    rw [planned, plan_of_no_word missing]
    rfl
  · intro missing
    rw [planned, plan_of_no_word missing]
    rfl
  intro word range found
  obtain ⟨line, present⟩ := Document.exists_line_of_wordAt found
  rw [plan_of_word found present] at planned
  refine ⟨line, present, ?_, ?_, ?_, ?_⟩
  · intro symbol behindPoint named
    rw [planned, wordPlan_of_symbol (symbol?_of_value behindPoint named)]
    rfl
  · intro symbol noValue ownWord named
    have function : provider.symbol? line word = some symbol := by
      rw [symbol?_of_not_namesValue noValue, if_pos ownWord, named]
    rw [planned, wordPlan_of_symbol function]
    rfl
  · intro noValue noFunction outside
    have asking : outcome =
        (outsideResolution word ((locate document.text position).run state).1,
          asked ++ [(document.text, position)],
          ((locate document.text position).run state).2) := by
      rw [planned, wordPlan_of_no_symbol (symbol?_eq_none noValue noFunction), if_pos outside]
      rfl
    rw [asking]
    refine ⟨rfl, ?_⟩
    cases ((locate document.text position).run state).1 with
    | error fault => rfl
    | ok isKey => cases isKey <;> rfl
  · intro noValue noFunction inside
    rw [planned, wordPlan_of_no_symbol (symbol?_eq_none noValue noFunction), if_neg inside]
    rfl

/-- A locator that fails is asked once, and its fault is passed on. -/
theorem resolveM_dispatch_failing_locator :
    let locate : KeyLocator (StateM Nat) := fun _ _ => do
      modify (· + 1)
      return .error .unexpectedToken
    let document : Document := ⟨"name: web", 1⟩
    document.wordAt ⟨0, 7⟩ = some ("web", ⟨⟨0, 6⟩, ⟨0, 9⟩⟩) ∧
      ((⟨.empty, "helm"⟩ : Provider).resolveM (recording locate) document ⟨0, 7⟩).run ([], 0) =
        (.undeterminable "web" .unexpectedToken, [("name: web", ⟨0, 7⟩)], 1) := by
  intro locate document
  have found : document.wordAt ⟨0, 7⟩ = some ("web", ⟨⟨0, 6⟩, ⟨0, 9⟩⟩) := by decide +kernel
  refine ⟨found, ?_⟩
  obtain ⟨_, _, _, dispatch⟩ := resolveM_dispatch ⟨.empty, "helm"⟩ locate document ⟨0, 7⟩ [] 0
  obtain ⟨line, present, _, _, outside, _⟩ := dispatch _ _ found
  have sameLine : line = "name: web" := Option.some.inj (present.symm.trans (by decide +kernel))
  subst sameLine
  have noValue : ¬NamesValue ⟨.empty, "helm"⟩ "name: web" "web" := by
    simp [NamesValue, SymbolTable.empty, SymbolTable.value?]
  have noFunction : ¬NamesFunction ⟨.empty, "helm"⟩ "name: web" "web" := by
    simp [NamesFunction, SymbolTable.empty, SymbolTable.function?]
  obtain ⟨questions, answer⟩ := outside noValue noFunction (by decide +kernel)
  exact Prod.ext answer questions

end Provider

end TemplateHover
