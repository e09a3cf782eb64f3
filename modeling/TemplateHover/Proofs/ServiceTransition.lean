import TemplateHover.Proofs.SetUp
import TemplateHover.Rpc.Service

namespace TemplateHover.Rpc

/-- A response of a service that does nothing: silence, or a refusal that blames the message. -/
def Response.Declined (response : Response) : Prop :=
  response.logs = [] ∧
    (response.reply = .silence ∨
      ∃ id refusal, response.reply = .answer id (.error refusal) ∧ refusal.code ≠ -32603)

namespace Response

theorem declined_silent : silent.Declined :=
  ⟨rfl, Or.inl rfl⟩

theorem declined_refused (id : Option Json) {refusal : Refusal} (blame : refusal.code ≠ -32603) :
    (refused id refusal).Declined := by
  cases id with
  | none => exact declined_silent
  | some id => exact ⟨rfl, Or.inr ⟨id, refusal, rfl, blame⟩⟩

theorem Declined.isResult_eq_false {response : Response} (declined : response.Declined) :
    response.isResult = false := by
  unfold isResult
  obtain ⟨_, silence | ⟨id, refusal, refused, _⟩⟩ := declined
  · rw [silence]
  · rw [refused]

theorem isResult_ofAnswer (id : Json) (answer : Answer) :
    (ofAnswer (some id) answer).isResult = answer.result.isOk := by
  unfold isResult ofAnswer
  cases answer.result <;> rfl

end Response

theorem setUpCall?_eq_setUp {json : Json} {call : Call} (read : setUpCall? json = some call) :
    ∃ options, call = .setUp options := by
  unfold setUpCall? at read
  obtain ⟨params, _, read⟩ := Option.bind_eq_some_iff.mp read
  split at read
  case h_6 => cases read
  all_goals
    split at read
    all_goals exact ⟨_, (Option.some.inj read).symm⟩

namespace Service

/-- All that a message can do to a service. Only the start, the end and the calls in between touch
the session; what comes too early, too late or out of shape is declined. -/
inductive Transition (files : Files) (service : Service) (message : Message) :
    Service → Response → Prop
  | gone (exited : service.phase = .exited) :
      Transition files service message service ⟨.exited, []⟩
  | leave (present : service.phase ≠ .exited) (named : message.method = "exit") :
      Transition files service message { service with phase := .exited } .silent
  | decline (present : service.phase ≠ .exited) (stays : message.method ≠ "exit")
      (goesOn : service.phase = .running → message.method ≠ "shutdown") {response : Response}
      (declined : response.Declined) : Transition files service message service response
  | setUp (fresh : service.phase = .fresh) (named : message.method = "initialize") (id : Json)
      (options : Option Json) :
      Transition files service message
        ⟨if (service.session.setUp files options).2.result.isOk then .running else .fresh,
          (service.session.setUp files options).1⟩
        (.ofAnswer (some id) (service.session.setUp files options).2)
  | stop (running : service.phase = .running) (named : message.method = "shutdown")
      {response : Response} (declined : response.Declined) :
      Transition files service message { service with phase := .stopped } response
  | shutDown (running : service.phase = .running) (named : message.method = "shutdown")
      (id : Json) :
      Transition files service message ⟨.stopped, { service.session with documents := [] }⟩
        ⟨.answer id (.ok .nothing), []⟩
  | act (running : service.phase = .running) (other : message.method ≠ "initialize")
      (stays : message.method ≠ "exit") (goesOn : message.method ≠ "shutdown") (call : Call) :
      Transition files service message
        { service with session := (service.session.step files call).1 }
        (.ofAnswer message.id (service.session.step files call).2)

theorem perform_cases (files : Files) (service : Service) (method : Method) (message : Message) :
    (∃ response : Response, response.Declined ∧
      service.perform files method message = (service, response)) ∨
    ∃ call, method.read? message.params = some (.call call) ∧
      message.id.isSome = method.isRequest ∧
      service.perform files method message =
        ({ service with session := (service.session.step files call).1 },
          .ofAnswer message.id (service.session.step files call).2) := by
  unfold perform
  split
  · exact Or.inl ⟨_, Response.declined_silent, rfl⟩
  split
  · exact Or.inl ⟨_, Response.declined_refused _ (by decide), rfl⟩
  rename_i notDropped notRefused
  cases read : method.read? message.params with
  | none => exact Or.inl ⟨_, Response.declined_refused _ (by decide), rfl⟩
  | some action =>
    cases action with
    | unsupported => exact Or.inl ⟨_, Response.declined_refused _ (by decide), rfl⟩
    | call call =>
      right
      refine ⟨call, rfl, ?_, rfl⟩
      cases expected : method.isRequest <;> cases given : message.id <;> simp_all

theorem perform_setUp_cases (files : Files) (service : Service) (message : Message) :
    (∃ response : Response, response.Declined ∧
      service.perform files .setUp message = (service, response)) ∨
    ∃ id options, service.perform files .setUp message =
      ({ service with session := (service.session.setUp files options).1 },
        .ofAnswer (some id) (service.session.setUp files options).2) := by
  obtain declined | ⟨call, read, asked, result⟩ := perform_cases files service .setUp message
  · exact Or.inl declined
  · obtain ⟨found, atFound, same⟩ := Option.map_eq_some_iff.mp read
    obtain ⟨params, _, atParams⟩ := Option.bind_eq_some_iff.mp atFound
    obtain ⟨options, rfl⟩ := setUpCall?_eq_setUp atParams
    obtain ⟨id, identity⟩ := Option.isSome_iff_exists.mp asked
    cases same
    rw [identity] at result
    exact Or.inr ⟨id, options, result⟩

theorem perform_shutdown_cases (files : Files) (service : Service) (message : Message) :
    (∃ response : Response, response.Declined ∧
      service.perform files .shutdown message = (service, response)) ∨
    ∃ id, service.perform files .shutdown message =
      ({ service with session := { service.session with documents := [] } },
        ⟨.answer id (.ok .nothing), []⟩) := by
  obtain declined | ⟨call, read, asked, result⟩ := perform_cases files service .shutdown message
  · exact Or.inl declined
  · obtain ⟨id, identity⟩ := Option.isSome_iff_exists.mp asked
    cases given : message.params with
    | some params =>
      rw [given] at read
      cases read
    | none =>
      rw [given] at read
      cases read
      rw [identity] at result
      exact Or.inr ⟨id, result⟩

theorem perform_cancel (files : Files) (service : Service) (message : Message) :
    ∃ response : Response, response.Declined ∧
      service.perform files .cancel message = (service, response) := by
  obtain declined | ⟨call, read, _, _⟩ := perform_cases files service .cancel message
  · exact declined
  · obtain ⟨_, _, same⟩ := Option.map_eq_some_iff.mp read
    cases same

theorem declined_outOfPhase (service : Service) (message : Message) :
    (service.outOfPhase message).Declined := by
  unfold outOfPhase
  split <;> exact Response.declined_refused _ (by decide)

theorem declined_unknown (message : Message) : (unknown message).Declined := by
  unfold unknown
  split
  · exact Response.declined_silent
  · exact Response.declined_refused _ (by decide)

theorem with_phase_eq {service : Service} {phase : Phase} (same : service.phase = phase) :
    { service with phase := phase } = service := by
  rw [← same]

theorem setUp_transition {service : Service} (present : service.phase ≠ .exited)
    {message : Message} (named : message.method = "initialize") (files : Files) :
    Transition files service message (service.setUp files message).1
      (service.setUp files message).2 := by
  have stays : message.method ≠ "exit" := by rw [named]; decide
  have goesOn : message.method ≠ "shutdown" := by rw [named]; decide
  unfold setUp
  split
  · rename_i fresh
    obtain ⟨response, declined, result⟩ | ⟨id, options, result⟩ :=
      perform_setUp_cases files service message
    · rw [result]
      simp only [declined.isResult_eq_false, Bool.false_eq_true, if_false, with_phase_eq fresh]
      exact .decline present stays (fun _ => goesOn) declined
    · rw [result]
      simp only [Response.isResult_ofAnswer]
      exact .setUp fresh named id options
  · exact .decline present stays (fun _ => goesOn) (Response.declined_refused _ (by decide))

theorem shutDown_transition {service : Service} (present : service.phase ≠ .exited)
    {message : Message} (named : message.method = "shutdown") (files : Files) :
    Transition files service message (service.shutDown files message).1
      (service.shutDown files message).2 := by
  have stays : message.method ≠ "exit" := by rw [named]; decide
  unfold shutDown
  split
  · rename_i running
    obtain ⟨response, declined, result⟩ | ⟨id, result⟩ :=
      perform_shutdown_cases files { service with phase := .stopped } message
    · rw [result]
      exact .stop running named declined
    · rw [result]
      exact .shutDown running named id
  · rename_i notRunning
    exact .decline present stays (fun running => absurd running notRunning)
      (declined_outOfPhase service message)

theorem step_transition (files : Files) (service : Service) (message : Message) :
    Transition files service message (service.step files message).1
      (service.step files message).2 := by
  unfold step
  split
  · rename_i exited
    exact .gone exited
  rename_i present
  split
  · exact setUp_transition present (by assumption) files
  · exact shutDown_transition present (by assumption) files
  · exact .leave present (by assumption)
  · rename_i named
    obtain ⟨response, declined, result⟩ := perform_cancel files service message
    rw [result]
    exact .decline present (by rw [named]; decide) (fun _ => by rw [named]; decide) declined
  · rename_i other goesOn stays _
    split
    · exact .decline present stays (fun _ => goesOn) (declined_unknown message)
    · rename_i method _
      split
      · rename_i running
        obtain ⟨response, declined, result⟩ | ⟨call, _, _, result⟩ :=
          perform_cases files service method message
        · rw [result]
          exact .decline present stays (fun _ => goesOn) declined
        · rw [result]
          exact .act running other stays goesOn call
      · exact .decline present stays (fun _ => goesOn) (declined_outOfPhase service message)

end Service

end TemplateHover.Rpc
