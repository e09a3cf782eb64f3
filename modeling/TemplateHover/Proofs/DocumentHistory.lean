import TemplateHover.Proofs.Documents
import TemplateHover.Proofs.SetUp

namespace TemplateHover

namespace Call

/-- What a call decrees for a URI: nothing, or the document that is stored from then on, where no
document means that the URI is closed. Only the last of several changes counts. -/
def effect? (uri : Uri) : Call → Option (Option Document)
  | .opened other version text => if other = uri then some (some ⟨text, version⟩) else none
  | .changed other version changes =>
    if other = uri then changes.getLast?.map fun last => some ⟨last.text, version⟩ else none
  | .closed other => if other = uri then some none else none
  | .shutdown => some none
  | .setUp _ | .ready | .hover _ _ | .completion _ _ => none

/-- Whether a call is an event of the document with a URI, or a shutdown, which concerns them
all. -/
def concerns (uri : Uri) : Call → Bool
  | .opened other _ _ | .changed other _ _ | .closed other => other = uri
  | .shutdown => true
  | .setUp _ | .ready | .hover _ _ | .completion _ _ => false

theorem concerns_of_effect? {uri : Uri} {call : Call} (effective : (call.effect? uri).isSome) :
    call.concerns uri = true := by
  cases call with
  | opened other version text | changed other version changes | closed other =>
    by_cases same : other = uri
    · simp [concerns, same]
    · simp [effect?, same] at effective
  | shutdown => rfl
  | setUp | ready | hover | completion => simp [effect?] at effective

end Call

/-- What the last call with an effect on a URI leaves there. Without such a call the URI is not
open. -/
def lastDocument? (uri : Uri) (calls : List Call) : Option Document :=
  (calls.filterMap (Call.effect? uri)).getLast?.join

/-- Two histories in which every document sees the same events and shutdowns in the same order.
Events of different documents may change places as long as no shutdown stands between them. -/
def SameEvents (calls others : List Call) : Prop :=
  ∀ uri, calls.filter (Call.concerns uri) = others.filter (Call.concerns uri)

theorem filterMap_effect?_filter_concerns (uri : Uri) (calls : List Call) :
    (calls.filter (Call.concerns uri)).filterMap (Call.effect? uri) =
      calls.filterMap (Call.effect? uri) := by
  induction calls with
  | nil => rfl
  | cons call rest ih =>
    by_cases concerned : call.concerns uri = true
    · rw [List.filter_cons_of_pos concerned, List.filterMap_cons, List.filterMap_cons, ih]
    · have idle : call.effect? uri = none := by
        rw [← Option.not_isSome_iff_eq_none]
        exact fun effective => concerned (Call.concerns_of_effect? effective)
      rw [List.filter_cons_of_neg concerned, List.filterMap_cons, idle, ih]

theorem SameEvents.lastDocument?_eq {calls others : List Call} (same : SameEvents calls others)
    (uri : Uri) : lastDocument? uri calls = lastDocument? uri others := by
  unfold lastDocument?
  rw [← filterMap_effect?_filter_concerns, same uri, filterMap_effect?_filter_concerns]

/-- Two neighbouring calls that concern no document in common may change places. -/
theorem SameEvents.swap (before after : List Call) {first second : Call}
    (apart : ∀ uri, ¬(first.concerns uri = true ∧ second.concerns uri = true)) :
    SameEvents (before ++ first :: second :: after) (before ++ second :: first :: after) := by
  intro uri
  rw [List.filter_append, List.filter_append]
  congr 1
  by_cases atFirst : first.concerns uri = true
  · have notSecond : ¬second.concerns uri = true := fun atSecond => apart uri ⟨atFirst, atSecond⟩
    rw [List.filter_cons_of_pos atFirst, List.filter_cons_of_neg notSecond,
      List.filter_cons_of_neg notSecond, List.filter_cons_of_pos atFirst]
  · by_cases atSecond : second.concerns uri = true
    · rw [List.filter_cons_of_neg atFirst, List.filter_cons_of_pos atSecond,
        List.filter_cons_of_pos atSecond, List.filter_cons_of_neg atFirst]
    · rw [List.filter_cons_of_neg atFirst, List.filter_cons_of_neg atSecond,
        List.filter_cons_of_neg atSecond, List.filter_cons_of_neg atFirst]

namespace Session

theorem documents_change (uri : Uri) (version : Int32) (changes : List Change) (session : Session) :
    (session.change uri version changes).1.documents =
      match changes.getLast? with
      | none => session.documents
      | some last => session.documents.insert uri ⟨last.text, version⟩ := by
  unfold change
  cases changes.getLast? with
  | none => rfl
  | some last => cases session.documents.get? uri <;> rfl

theorem get?_step (files : Files) (session : Session) (call : Call) (uri : Uri) :
    (session.step files call).1.documents.get? uri =
      (call.effect? uri).getD (session.documents.get? uri) := by
  cases call with
  | setUp options => simp only [step, documents_setUp, Call.effect?, Option.getD_none]
  | ready | hover | completion => rfl
  | shutdown => rfl
  | opened other version text =>
    simp only [step, Documents.get?_insert, Call.effect?, eq_comm (a := uri)]
    split <;> rfl
  | closed other =>
    simp only [step, Documents.get?_erase, Call.effect?, eq_comm (a := uri)]
    split <;> rfl
  | changed other version changes =>
    simp only [step, documents_change, Call.effect?]
    cases changes.getLast? with
    | none => simp
    | some last =>
      simp only [Documents.get?_insert, eq_comm (a := uri), Option.map_some]
      split <;> rfl

theorem sorted_step {session : Session} (sorted : session.documents.Sorted) (files : Files)
    (call : Call) : (session.step files call).1.documents.Sorted := by
  cases call with
  | setUp options => simpa only [step, documents_setUp] using sorted
  | ready | hover | completion => exact sorted
  | shutdown => exact Documents.sorted_nil
  | opened uri version text => exact sorted.insert uri _
  | closed uri => exact sorted.erase uri
  | changed uri version changes =>
    simp only [step, documents_change]
    cases changes.getLast? with
    | none => exact sorted
    | some last => exact sorted.insert uri _

@[simp] theorem run_nil (session : Session) : session.run [] = session :=
  rfl

@[simp] theorem run_cons (session : Session) (files : Files) (call : Call)
    (rest : List (Files × Call)) :
    session.run ((files, call) :: rest) = (session.step files call).1.run rest :=
  rfl

/-- A run leaves at a URI what the last call with an effect on it decrees, and what was there
before if no call has one. -/
theorem get?_run (session : Session) (calls : List (Files × Call)) (uri : Uri) :
    (session.run calls).documents.get? uri =
      (((calls.map Prod.snd).filterMap (Call.effect? uri)).getLast?).getD
        (session.documents.get? uri) := by
  induction calls generalizing session with
  | nil => rfl
  | cons entry rest ih =>
    obtain ⟨files, call⟩ := entry
    rw [run_cons, ih, get?_step, List.map_cons, List.filterMap_cons]
    cases call.effect? uri with
    | none => rfl
    | some content => simp [List.getLast?_cons]

theorem get?_run_start (calls : List (Files × Call)) (uri : Uri) :
    (start.run calls).documents.get? uri = lastDocument? uri (calls.map Prod.snd) := by
  rw [get?_run, lastDocument?]
  cases ((calls.map Prod.snd).filterMap (Call.effect? uri)).getLast? with
  | none => rfl
  | some content => rfl

theorem sorted_run {session : Session} (sorted : session.documents.Sorted)
    (calls : List (Files × Call)) : (session.run calls).documents.Sorted := by
  induction calls generalizing session with
  | nil => exact sorted
  | cons entry rest ih =>
    obtain ⟨files, call⟩ := entry
    exact ih (sorted_step sorted files call)

/-- The open documents are those of the last effective events, whatever else was called. A call
without an effect on a URI leaves its document alone in every session. Histories with the same
events and shutdowns for every document end with the same documents, in the same order. -/
theorem documents_follow_events (calls : List (Files × Call)) :
    (∀ uri, (start.run calls).documents.get? uri = lastDocument? uri (calls.map Prod.snd)) ∧
      (∀ (session : Session) (files : Files) (call : Call) (uri : Uri), call.effect? uri = none →
        (session.step files call).1.documents.get? uri = session.documents.get? uri) ∧
      ∀ others : List (Files × Call), SameEvents (calls.map Prod.snd) (others.map Prod.snd) →
        (start.run others).documents = (start.run calls).documents := by
  refine ⟨get?_run_start calls, ?_, ?_⟩
  · intro session files call uri idle
    rw [get?_step, idle, Option.getD_none]
  · intro others same
    -- the documents agree at every URI, and sorted documents are no more than that
    have fresh : start.documents.Sorted := Documents.sorted_nil
    refine Documents.Sorted.ext (sorted_run fresh others) (sorted_run fresh calls) ?_
    intro uri
    rw [get?_run_start, get?_run_start, same.lastDocument?_eq]

theorem documents_follow_events_change_first :
    let files : Files := fun _ => .error .notFound
    let opened : Call := .opened ⟨"file:///b"⟩ 1 "b: 1"
    let changed : Call := .changed ⟨"file:///a"⟩ 2 [⟨none, "a: 1"⟩, ⟨none, "a: 2"⟩]
    SameEvents [opened, changed, .ready] [changed, opened, .ready] ∧
      (start.run [(files, changed), (files, opened), (files, .ready)]).documents =
        (start.run [(files, opened), (files, changed), (files, .ready)]).documents ∧
      (start.run [(files, opened), (files, changed), (files, .ready)]).documents.get?
        ⟨"file:///a"⟩ = some ⟨"a: 2", 2⟩ := by
  intro files opened changed
  have same : SameEvents [opened, changed, .ready] [changed, opened, .ready] := by
    apply SameEvents.swap []
    intro uri
    rintro ⟨atOpened, atChanged⟩
    have first : (⟨"file:///b"⟩ : Uri) = uri := of_decide_eq_true atOpened
    have second : (⟨"file:///a"⟩ : Uri) = uri := of_decide_eq_true atChanged
    cases second
    exact absurd first (by decide)
  have law := documents_follow_events [(files, opened), (files, changed), (files, .ready)]
  refine ⟨same, law.2.2 _ same, ?_⟩
  rw [law.1]
  decide

end Session

end TemplateHover
