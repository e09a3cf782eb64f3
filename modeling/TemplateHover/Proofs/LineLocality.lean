import TemplateHover.Proofs.Dispatch
import TemplateHover.Symbol.Builtin

namespace TemplateHover

/-- The tooltip of a plan. A question to the locator never ends in one. -/
def Plan.tooltip? : Plan → Option Tooltip
  | .settled resolution => resolution.tooltip?
  | .ask _ => none

namespace Provider

theorem tooltip?_outsideResolution (word : String) (answer : Except Yaml.Fault Bool) :
    (outsideResolution word answer).tooltip? = none := by
  cases answer with
  | error fault => rfl
  | ok isKey => cases isKey <;> rfl

theorem tooltip?_run {σ : Type} (provider : Provider) (locate : KeyLocator (StateM σ))
    (document : Document) (position : Position) (state : σ) :
    ((provider.resolveM locate document position).run state).1.tooltip? =
      (provider.plan document position).tooltip? := by
  rw [resolveM_eq_plan]
  cases provider.plan document position with
  | settled resolution => rfl
  | ask word => exact tooltip?_outsideResolution word _

theorem tooltip?_resolve (provider : Provider) (document : Document) (position : Position) :
    (provider.resolve document position).tooltip? =
      (provider.plan document position).tooltip? := by
  unfold resolve
  rw [resolveM_eq_plan]
  cases provider.plan document position with
  | settled resolution => rfl
  | ask word => exact tooltip?_outsideResolution word _

theorem plan_congr (provider : Provider) {first second : Document} {position : Position}
    (same : first.line position.line = second.line position.line) :
    provider.plan first position = provider.plan second position := by
  unfold plan
  rw [Document.wordAt_congr same, same]

/-- The plans of one word on one line show tooltips that differ in nothing but the range, or none
at all. -/
theorem tooltip?_wordPlan_rel (provider : Provider) (line word : String) (here there : Range) :
    Option.Rel (fun tooltip another => another = { tooltip with range := another.range })
      (provider.wordPlan line word here).tooltip? (provider.wordPlan line word there).tooltip? := by
  cases named : provider.symbol? line word with
  | some symbol =>
    rw [wordPlan_of_symbol named, wordPlan_of_symbol named]
    exact .some rfl
  | none =>
    rw [wordPlan_of_no_symbol named, wordPlan_of_no_symbol named]
    split <;> exact .none

theorem tooltip?_plan_rel (provider : Provider) {first second : Document} {here there : Position}
    (sameLine : first.line here.line = second.line there.line)
    (sameWord : (first.wordAt here).map Prod.fst = (second.wordAt there).map Prod.fst) :
    Option.Rel (fun tooltip another => another = { tooltip with range := another.range })
      (provider.plan first here).tooltip? (provider.plan second there).tooltip? := by
  cases foundHere : first.wordAt here with
  | none =>
    rw [foundHere] at sameWord
    have foundThere := Option.map_eq_none_iff.mp sameWord.symm
    rw [plan_of_no_word foundHere, plan_of_no_word foundThere]
    exact .none
  | some pair =>
    obtain ⟨word, range⟩ := pair
    rw [foundHere] at sameWord
    obtain ⟨⟨_, otherRange⟩, foundThere, rfl⟩ := Option.map_eq_some_iff.mp sameWord.symm
    obtain ⟨line, present⟩ := Document.exists_line_of_wordAt foundHere
    rw [plan_of_word foundHere present, plan_of_word foundThere (sameLine.symm.trans present)]
    exact provider.tooltip?_wordPlan_rel line _ range otherRange

/-- Nothing but the line of the cursor reaches a tooltip: not the other lines, not the version, and
not the locator, which may fail or keep a state. Equal words on equal lines have tooltips that
differ in nothing but the range, or both have none. The locator of a session is no exception. -/
theorem tooltip_noninterference {σ τ : Type} (provider : Provider)
    (locate : KeyLocator (StateM σ)) (otherLocate : KeyLocator (StateM τ)) (state : σ)
    (otherState : τ) (document other : Document) :
    let shown (position : Position) : Option Tooltip :=
      ((provider.resolveM locate document position).run state).1.tooltip?
    let otherShown (position : Position) : Option Tooltip :=
      ((provider.resolveM otherLocate other position).run otherState).1.tooltip?
    (∀ position, document.line position.line = other.line position.line →
      shown position = otherShown position) ∧
    (∀ here there, document.line here.line = other.line there.line →
      (document.wordAt here).map Prod.fst = (other.wordAt there).map Prod.fst →
      Option.Rel (fun tooltip another => another = { tooltip with range := another.range })
        (shown here) (otherShown there)) ∧
    ∀ position, (provider.resolve document position).tooltip? = shown position := by
  intro shown otherShown
  have locatorFree (position : Position) :
      shown position = (provider.plan document position).tooltip? :=
    tooltip?_run provider locate document position state
  have otherLocatorFree (position : Position) :
      otherShown position = (provider.plan other position).tooltip? :=
    tooltip?_run provider otherLocate other position otherState
  refine ⟨?_, ?_, ?_⟩
  · intro position same
    rw [locatorFree, otherLocatorFree, provider.plan_congr same]
  · intro here there sameLine sameWord
    rw [locatorFree, otherLocatorFree]
    exact provider.tooltip?_plan_rel sameLine sameWord
  · intro position
    rw [locatorFree, tooltip?_resolve]

/-- A text that is no YAML shows the same tooltip as its first line alone. -/
theorem tooltip_noninterference_unparsable :
    let document : Document := ⟨"a: \x7b\x7b quote . \x7d\x7d", 1⟩
    let other : Document := ⟨"a: \x7b\x7b quote . \x7d\x7d\n- : [", 2⟩
    let provider : Provider := ⟨.builtin, "helm"⟩
    let key : KeyLocator (StateM Unit) := fun _ _ => pure (.ok true)
    let failing : KeyLocator (StateM Unit) := fun _ _ => pure (.error .unexpectedToken)
    document.line 0 = other.line 0 ∧
      ((provider.resolveM key document ⟨0, 8⟩).run ()).1.tooltip? =
        ((provider.resolveM failing other ⟨0, 8⟩).run ()).1.tooltip? ∧
      (provider.resolve document ⟨0, 8⟩).tooltip?.isSome = true := by
  intro document other provider key failing
  have same : document.line 0 = other.line 0 := by decide +kernel
  refine ⟨same, ?_, by decide +kernel⟩
  exact (tooltip_noninterference provider key failing () () document other).1 ⟨0, 8⟩ same

end Provider

end TemplateHover
