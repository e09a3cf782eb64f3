import TemplateHover.Proofs.ServiceTransition
import TemplateHover.Proofs.SessionHover

namespace TemplateHover

/-- An answer without a fault of the server: no message of an error and no internal error. -/
def Answer.Faultless (answer : Answer) : Prop :=
  (∀ log ∈ answer.logs, log.level ≠ .error) ∧
    ∀ refusal, answer.result = .error refusal → refusal.code ≠ -32603

namespace Answer

theorem faultless_ok (outcome : Outcome) : (ok outcome).Faultless :=
  ⟨nofun, nofun⟩

theorem faultless_logged {level : LogLevel} (harmless : level ≠ .error) (message : String) :
    (logged level message).Faultless := by
  refine ⟨?_, nofun⟩
  intro log member
  rw [List.mem_singleton.mp member]
  exact harmless

theorem faultless_refused {refusal : Refusal} (blame : refusal.code ≠ -32603) :
    (refused refusal).Faultless := by
  refine ⟨nofun, ?_⟩
  intro other same
  cases same
  exact blame

end Answer

namespace Session

theorem faultless_setUp {session : Session} {provider : Provider}
    (present : session.provider = some provider) (files : Files) (options : Option Json) :
    (session.setUp files options).2.Faultless := by
  obtain ⟨fault, _, result⟩ | ⟨_, _, _, _, result⟩ | ⟨_, _, _, missing, _⟩ |
    ⟨_, _, _, missing, _⟩ := setUp_cases files options session
  · rw [result]
    exact Answer.faultless_refused (by simp [Refusal.code])
  · rw [result]
    exact Answer.faultless_ok .capabilities
  all_goals cases missing.symm.trans present

theorem hover_of_provider {session : Session} {provider : Provider}
    (present : session.provider = some provider) (uri : Uri) (position : Position) :
    (∃ outcome, session.hover uri position = .ok outcome) ∨
      ∃ message, session.hover uri position = .logged .log message := by
  have answered := hover_of_provider_some present uri position
  split at answered
  · exact Or.inr answered
  split at answered
  · exact Or.inl ⟨_, answered⟩
  · exact Or.inr answered

/-- Once tooltips are set up, no call fails by a fault of the server. -/
theorem faultless_step {session : Session} {provider : Provider}
    (present : session.provider = some provider) (files : Files) (call : Call) :
    (session.step files call).2.Faultless := by
  cases call with
  | setUp options => exact faultless_setUp present files options
  | ready | opened => exact Answer.faultless_logged (by decide) _
  | shutdown | closed => exact Answer.faultless_ok .nothing
  | completion => exact Answer.faultless_refused (by decide)
  | changed uri version changes =>
    simp only [step, change]
    cases changes.getLast? with
    | none => exact Answer.faultless_logged (by decide) _
    | some last =>
      cases session.documents.get? uri with
      | some document => exact Answer.faultless_ok .nothing
      | none => exact Answer.faultless_logged (by decide) _
  | hover uri position =>
    simp only [step]
    obtain ⟨outcome, shown⟩ | ⟨message, nothing⟩ := hover_of_provider present uri position
    · rw [shown]
      exact Answer.faultless_ok outcome
    · rw [nothing]
      exact Answer.faultless_logged (by decide) message

end Session

namespace Rpc

namespace Response

/-- A response without a fault of the server: no message of an error and no internal error. -/
def Faultless (response : Response) : Prop :=
  (∀ log ∈ response.logs, log.level ≠ .error) ∧
    ∀ id refusal, response.reply = .answer id (.error refusal) → refusal.code ≠ -32603

theorem Declined.faultless {response : Response} (declined : response.Declined) :
    response.Faultless := by
  obtain ⟨quiet, reply⟩ := declined
  refine ⟨by rw [quiet]; exact nofun, ?_⟩
  intro id refusal given
  obtain silence | ⟨_, _, refused, blame⟩ := reply
  · cases silence.symm.trans given
  · cases refused.symm.trans given
    exact blame

theorem faultless_ofAnswer {answer : Answer} (faultless : answer.Faultless) (id : Option Json) :
    (ofAnswer id answer).Faultless := by
  cases id with
  | none => exact ⟨faultless.1, nofun⟩
  | some id =>
    refine ⟨faultless.1, ?_⟩
    intro _ refusal given
    exact faultless.2 refusal (Reply.answer.inj given).2

end Response

namespace Service

/-- A running service has tooltips set up. -/
def Ready (service : Service) : Prop :=
  service.phase = .running → ∃ provider, service.session.provider = some provider

/-- A service that takes no more calls. -/
def Ended (service : Service) : Prop :=
  service.phase = .stopped ∨ service.phase = .exited

theorem Ended.phase_ne {service : Service} (ended : service.Ended) :
    service.phase ≠ .fresh ∧ service.phase ≠ .running := by
  obtain stopped | exited := ended
  · rw [stopped]
    exact ⟨nofun, nofun⟩
  · rw [exited]
    exact ⟨nofun, nofun⟩

namespace Transition

variable {files : Files} {service after : Service} {message : Message} {response : Response}

theorem ready (transition : Transition files service message after response)
    (ready : service.Ready) : after.Ready := by
  cases transition with
  | gone | decline => exact ready
  | leave | stop | shutDown => exact nofun
  | setUp fresh named id options =>
    intro running
    dsimp only at running ⊢
    split at running
    · rename_i succeeded
      exact Session.exists_provider_of_setUp succeeded
    · cases running
  | act running _ _ _ call =>
    intro _
    obtain ⟨provider, present⟩ := ready running
    exact ⟨provider, Session.provider_step_of_some present files call⟩

/-- Nothing but the start of a session can fail by a fault of the server. -/
theorem faultless (transition : Transition files service message after response)
    (ready : service.Ready) (other : message.method ≠ "initialize") : response.Faultless := by
  cases transition with
  | gone | leave | shutDown => exact ⟨nofun, nofun⟩
  | decline _ _ _ declined | stop _ _ declined => exact declined.faultless
  | setUp _ named => exact absurd named other
  | act running _ _ _ call =>
    obtain ⟨provider, present⟩ := ready running
    exact Response.faultless_ofAnswer (Session.faultless_step present files call) message.id

theorem documents_eq (transition : Transition files service message after response)
    (idle : service.phase ≠ .running) : after.session.documents = service.session.documents := by
  cases transition with
  | gone | leave | decline => rfl
  | setUp _ _ _ options => exact Session.documents_setUp files options service.session
  | stop running | shutDown running | act running => exact absurd running idle

theorem isResult_of_running (transition : Transition files service message after response)
    (idle : service.phase ≠ .running) (started : after.phase = .running) :
    message.method = "initialize" ∧ response.isResult = true := by
  cases transition with
  | gone | decline => exact absurd started idle
  | leave => cases started
  | setUp _ named id options =>
    refine ⟨named, ?_⟩
    rw [Response.isResult_ofAnswer]
    dsimp only at started
    split at started
    · assumption
    · cases started
  | stop running | shutDown running | act running => exact absurd running idle

theorem running_of_isResult (transition : Transition files service message after response)
    (named : message.method = "initialize") (succeeded : response.isResult = true) :
    after.phase = .running := by
  cases transition with
  | gone | leave => cases succeeded
  | decline _ _ _ declined | stop _ _ declined =>
    rw [declined.isResult_eq_false] at succeeded
    cases succeeded
  | setUp _ _ id options =>
    rw [Response.isResult_ofAnswer] at succeeded
    exact if_pos succeeded
  | shutDown _ ends => exact absurd (named.symm.trans ends) (by decide)
  | act _ other => exact absurd named other

theorem phase_ne_fresh (transition : Transition files service message after response)
    (used : service.phase ≠ .fresh) : after.phase ≠ .fresh := by
  cases transition with
  | gone | decline | act => exact used
  | leave | stop | shutDown => exact nofun
  | setUp fresh => exact absurd fresh used

theorem ended (transition : Transition files service message after response)
    (ended : service.Ended) : after.session = service.session ∧ after.Ended := by
  cases transition with
  | gone | decline => exact ⟨rfl, ended⟩
  | leave => exact ⟨rfl, Or.inr rfl⟩
  | setUp fresh => exact absurd fresh ended.phase_ne.1
  | stop running | shutDown running | act running => exact absurd running ended.phase_ne.2

/-- A shutdown ends every session that has started. Only one that succeeds closes the documents. -/
theorem ended_of_shutdown (transition : Transition files service message after response)
    (used : service.phase ≠ .fresh) (named : message.method = "shutdown") :
    after.Ended ∧ (response.isResult = true → after.session.documents = []) := by
  cases transition with
  | gone exited => exact ⟨Or.inr exited, nofun⟩
  | leave => exact ⟨Or.inr rfl, nofun⟩
  | decline present _ goesOn declined =>
    have stopped : service.phase = .stopped := by
      cases phase : service.phase with
      | fresh => exact absurd phase used
      | running => exact absurd named (goesOn phase)
      | stopped => rfl
      | exited => exact absurd phase present
    exact ⟨Or.inl stopped, by rw [declined.isResult_eq_false]; exact nofun⟩
  | setUp fresh => exact absurd fresh used
  | stop _ _ declined => exact ⟨Or.inl rfl, by rw [declined.isResult_eq_false]; exact nofun⟩
  | shutDown => exact ⟨Or.inl rfl, fun _ => rfl⟩
  | act _ _ _ goesOn => exact absurd named goesOn

theorem exited_of_exit (transition : Transition files service message after response)
    (named : message.method = "exit") :
    after.phase = .exited ∧ after.session = service.session := by
  cases transition with
  | gone exited => exact ⟨exited, rfl⟩
  | leave => exact ⟨rfl, rfl⟩
  | decline _ stays | act _ _ stays => exact absurd named stays
  | setUp _ starts => exact absurd (named.symm.trans starts) (by decide)
  | stop _ ends | shutDown _ ends => exact absurd (named.symm.trans ends) (by decide)

end Transition

theorem step_of_exited {service : Service} (exited : service.phase = .exited) (files : Files)
    (message : Message) : service.step files message = (service, ⟨.exited, []⟩) := by
  rw [step, if_pos exited]

@[simp] theorem run_nil (service : Service) : service.run [] = service :=
  rfl

@[simp] theorem run_cons (service : Service) (files : Files) (message : Message)
    (rest : List (Files × Message)) :
    service.run ((files, message) :: rest) = (service.step files message).1.run rest :=
  rfl

/-- What every transition keeps, every run keeps. -/
theorem run_invariant {invariant : Service → Prop}
    (kept : ∀ {files service message after response},
      Transition files service message after response → invariant service → invariant after)
    {service : Service} (holds : invariant service) (messages : List (Files × Message)) :
    invariant (service.run messages) := by
  induction messages generalizing service with
  | nil => exact holds
  | cons entry rest ih =>
    obtain ⟨files, message⟩ := entry
    exact ih (kept (service.step_transition files message) holds)

theorem ready_run {service : Service} (ready : service.Ready) (messages : List (Files × Message)) :
    (service.run messages).Ready :=
  run_invariant Transition.ready ready messages

theorem phase_run_ne_fresh {service : Service} (used : service.phase ≠ .fresh)
    (messages : List (Files × Message)) : (service.run messages).phase ≠ .fresh :=
  run_invariant Transition.phase_ne_fresh used messages

theorem session_run_of_ended {service : Service} (ended : service.Ended)
    (messages : List (Files × Message)) : (service.run messages).session = service.session := by
  have kept {files before message after response}
      (transition : Transition files before message after response)
      (frozen : before.session = service.session ∧ before.Ended) :
      after.session = service.session ∧ after.Ended := by
    obtain ⟨same, stillEnded⟩ := transition.ended frozen.2
    exact ⟨same.trans frozen.1, stillEnded⟩
  exact (run_invariant kept ⟨rfl, ended⟩ messages).1

theorem run_of_exited {service : Service} (exited : service.phase = .exited)
    (messages : List (Files × Message)) : service.run messages = service := by
  induction messages with
  | nil => rfl
  | cons entry rest ih =>
    obtain ⟨files, message⟩ := entry
    rw [run_cons, step_of_exited exited, ih]

/-- Whether one of the messages starts the session with success. -/
def isSetUp (service : Service) : List (Files × Message) → Bool
  | [] => false
  | (files, message) :: rest =>
    (message.method = "initialize" && (service.step files message).2.isResult) ||
      (service.step files message).1.isSetUp rest

theorem documents_run_of_not_isSetUp {service : Service} (idle : service.phase ≠ .running)
    {messages : List (Files × Message)} (never : service.isSetUp messages = false) :
    (service.run messages).session.documents = service.session.documents := by
  induction messages generalizing service with
  | nil => rfl
  | cons entry rest ih =>
    obtain ⟨files, message⟩ := entry
    have transition := service.step_transition files message
    obtain ⟨notNow, notLater⟩ := Bool.or_eq_false_iff.mp never
    have stillIdle : (service.step files message).1.phase ≠ .running := by
      intro started
      obtain ⟨named, succeeded⟩ := transition.isResult_of_running idle started
      simp [named, succeeded] at notNow
    rw [run_cons, ih stillIdle notLater, transition.documents_eq idle]

theorem phase_run_of_isSetUp {service : Service} {messages : List (Files × Message)}
    (started : service.isSetUp messages = true) : (service.run messages).phase ≠ .fresh := by
  induction messages generalizing service with
  | nil => cases started
  | cons entry rest ih =>
    obtain ⟨files, message⟩ := entry
    rcases Bool.or_eq_true_iff.mp started with now | later
    · obtain ⟨named, succeeded⟩ := Bool.and_eq_true_iff.mp now
      have running := (service.step_transition files message).running_of_isResult
        (of_decide_eq_true named) succeeded
      exact phase_run_ne_fresh (by rw [running]; exact nofun) rest
    · exact ih later

theorem hoverCall?_eq_hover {json : Json} {call : Call} (read : hoverCall? json = some call) :
    ∃ uri position, call = .hover uri position := by
  unfold hoverCall? at read
  obtain ⟨params, _, read⟩ := Option.bind_eq_some_iff.mp read
  obtain ⟨⟨uri, position⟩, _, same⟩ := Option.map_eq_some_iff.mp read
  exact ⟨uri, position, same.symm⟩

theorem lookup_hover :
    methods.lookup "textDocument/hover" = some (Method.calling true hoverCall?) :=
  rfl

theorem step_hover {service : Service} (running : service.phase = .running) {message : Message}
    (named : message.method = "textDocument/hover") (files : Files) :
    service.step files message =
      service.perform files (.calling true hoverCall?) message := by
  have notExited : service.phase ≠ .exited := by rw [running]; exact nofun
  rw [step, if_neg notExited]
  split
  case h_5 =>
    simp only [named, lookup_hover]
    exact if_pos running
  all_goals
    rename_i other
    exact absurd (named.symm.trans other) (by decide)

/-- A proper question to a service that is ready and runs gets a result. -/
theorem isResult_step_hover {service : Service} (ready : service.Ready)
    (running : service.phase = .running) {message : Message}
    (named : message.method = "textDocument/hover") (asked : message.id.isSome = true)
    (proper : (message.params.bind hoverCall?).isSome = true) (files : Files) :
    (service.step files message).2.isResult = true := by
  obtain ⟨id, identity⟩ := Option.isSome_iff_exists.mp asked
  obtain ⟨call, read⟩ := Option.isSome_iff_exists.mp proper
  obtain ⟨params, _, atParams⟩ := Option.bind_eq_some_iff.mp read
  obtain ⟨uri, position, rfl⟩ := hoverCall?_eq_hover atParams
  obtain ⟨provider, present⟩ := ready running
  have performed : (service.step files message).2 =
      .ofAnswer (some id) (service.session.hover uri position) := by
    rw [step_hover running named]
    simp only [perform, Method.calling, identity, read]
    rfl
  rw [performed, Response.isResult_ofAnswer]
  obtain ⟨outcome, shown⟩ | ⟨text, nothing⟩ := Session.hover_of_provider present uri position
  · rw [shown]
    rfl
  · rw [nothing]
    rfl

theorem ready_start : start.Ready :=
  nofun

/-- The life of a service after any messages. While it runs, tooltips are set up; so a question is
never refused by a fault of the server, whenever it comes, and a proper one gets a result while the
service runs. Until a start succeeds no document is open. After a start that succeeded, a shutdown
leaves the documents as they are from then on, and there are none if it got a result. After the
exit nothing changes, and every message hears that the service is gone. -/
theorem session_follows_phases (messages : List (Files × Message)) :
    let service := start.run messages
    (service.phase = .running → ∃ provider, service.session.provider = some provider) ∧
    (∀ files message, message.method = "textDocument/hover" →
      (service.step files message).2.Faultless ∧
        (service.phase = .running → message.id.isSome = true →
          (message.params.bind hoverCall?).isSome = true →
          (service.step files message).2.isResult = true)) ∧
    (start.isSetUp messages = false → service.session.documents = []) ∧
    (∀ files message later, start.isSetUp messages = true → message.method = "shutdown" →
      let stopped := (service.step files message).1
      (stopped.run later).session.documents = stopped.session.documents ∧
        ((service.step files message).2.isResult = true →
          (stopped.run later).session.documents = [])) ∧
    (∀ files message later, message.method = "exit" →
      let gone := (service.step files message).1
      gone.run later = gone ∧ gone.session = service.session ∧
        ∀ filesThen another,
          (gone.run later).step filesThen another = (gone, ⟨.exited, []⟩)) := by
  intro service
  have ready : service.Ready := ready_run ready_start messages
  refine ⟨ready, ?_, ?_, ?_, ?_⟩
  · intro files message named
    have other : message.method ≠ "initialize" := by rw [named]; decide
    exact ⟨(service.step_transition files message).faultless ready other,
      fun running asked proper => isResult_step_hover ready running named asked proper files⟩
  · intro never
    exact documents_run_of_not_isSetUp (by decide) never
  · intro files message later started named stopped
    have used : service.phase ≠ .fresh := phase_run_of_isSetUp started
    obtain ⟨ended, closed⟩ := (service.step_transition files message).ended_of_shutdown used named
    have same := session_run_of_ended ended later
    exact ⟨by rw [same], fun succeeded => by rw [same]; exact closed succeeded⟩
  · intro files message later named gone
    obtain ⟨exited, same⟩ := (service.step_transition files message).exited_of_exit named
    refine ⟨run_of_exited exited later, same, ?_⟩
    intro filesThen another
    rw [run_of_exited exited later, step_of_exited exited]

/-- A document that was open at the shutdown is closed, and none can be opened any more. -/
theorem session_follows_phases_after_shutdown :
    let files : Files := fun _ => .error .notFound
    let setUp : Message := ⟨some (.int 1), "initialize", some (.object [("capabilities", .object [])])⟩
    let opening : Message := ⟨none, "textDocument/didOpen", some (.object [("textDocument", .object
      [("languageId", .string "yaml"), ("text", .string "a: 1"), ("uri", .string "file:///a"),
        ("version", .int 1)])])⟩
    let shutdown : Message := ⟨some (.int 2), "shutdown", none⟩
    let service := start.run [(files, setUp), (files, opening)]
    service.session.documents.get? ⟨"file:///a"⟩ = some ⟨"a: 1", 1⟩ ∧
      ((service.step files shutdown).1.run [(files, opening)]).session.documents = [] := by
  intro files setUp opening shutdown service
  refine ⟨by decide +kernel, ?_⟩
  obtain ⟨_, _, _, afterShutdown, _⟩ := session_follows_phases [(files, setUp), (files, opening)]
  have closed := (afterShutdown files shutdown [(files, opening)] (by decide +kernel) rfl).2
  exact closed (by decide +kernel)

end Service

end Rpc

end TemplateHover
