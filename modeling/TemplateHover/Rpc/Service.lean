import TemplateHover.Rpc.Method

namespace TemplateHover.Rpc

/-- A message of an editor. One that expects a reply has a number or a name. -/
structure Message where
  id : Option Json
  method : String
  params : Option Json

/-- How far the life of a service has come. -/
inductive Phase where
  | fresh
  | running
  | stopped
  | exited
deriving DecidableEq, Repr

/-- A session and how far its life has come. -/
structure Service where
  phase : Phase
  session : Session

/-- What a message gets back. -/
inductive Reply where
  | silence
  /-- The service is gone. -/
  | exited
  | answer (id : Json) (result : Except Refusal Outcome)

/-- A reply and the messages that were sent to the editor before. -/
structure Response where
  reply : Reply
  logs : List Log

namespace Response

/-- No reply and no messages. -/
def silent : Response :=
  ⟨.silence, []⟩

/-- A refusal to a message that expects a reply. -/
def refused (id : Option Json) (refusal : Refusal) : Response :=
  match id with
  | none => silent
  | some id => ⟨.answer id (.error refusal), []⟩

/-- The answer of a call to a message that may expect a reply. -/
def ofAnswer (id : Option Json) (answer : Answer) : Response :=
  match id with
  | none => ⟨.silence, answer.logs⟩
  | some id => ⟨.answer id answer.result, answer.logs⟩

/-- Whether the response is a result. -/
def isResult (response : Response) : Bool :=
  match response.reply with
  | .answer _ (.ok _) => true
  | _ => false

end Response

namespace Service

/-- The service before the first message. -/
def start : Service :=
  ⟨.fresh, .start⟩

/-- Does what a message with a known method asks for. A request without an identity is dropped, and
a note with one is refused. -/
def perform (files : Files) (service : Service) (method : Method) (message : Message) :
    Service × Response :=
  if method.isRequest && message.id.isNone then (service, .silent)
  else if !method.isRequest && message.id.isSome then
    (service, .refused message.id .invalidRequest)
  else
    match method.read? message.params with
    | none => (service, .refused message.id (.invalidParams "Invalid params"))
    | some .unsupported => (service, .refused message.id .methodNotFound)
    | some (.call call) =>
      let (session, answer) := service.session.step files call
      ({ service with session := session }, .ofAnswer message.id answer)

/-- Starts the session. Only a request that succeeds counts, and it counts once. -/
def setUp (files : Files) (service : Service) (message : Message) : Service × Response :=
  match service.phase with
  | .fresh =>
    let (performed, response) := service.perform files .setUp message
    ({ performed with phase := if response.isResult then .running else .fresh }, response)
  | _ => (service, .refused message.id .invalidRequest)

/-- The response to a message that comes before or after the session. -/
def outOfPhase (service : Service) (message : Message) : Response :=
  .refused message.id (if service.phase = .fresh then .notInitialized else .invalidRequest)

/-- Ends the session, whatever comes of the request. -/
def shutDown (files : Files) (service : Service) (message : Message) : Service × Response :=
  match service.phase with
  | .running => { service with phase := .stopped }.perform files .shutdown message
  | _ => (service, service.outOfPhase message)

/-- The response to a method that is not known. Methods with a leading dollar sign may be
ignored. -/
def unknown (message : Message) : Response :=
  if message.method.startsWith "$/" then .silent else .refused message.id .methodNotFound

/-- The service behind a message, and the response. -/
def step (files : Files) (service : Service) (message : Message) : Service × Response :=
  if service.phase = .exited then (service, ⟨.exited, []⟩)
  else
    match message.method with
    | "initialize" => service.setUp files message
    | "shutdown" => service.shutDown files message
    | "exit" => ({ service with phase := .exited }, .silent)
    | "$/cancelRequest" => service.perform files .cancel message
    | name =>
      match methods.lookup name with
      | none => (service, unknown message)
      | some method =>
        if service.phase = .running then service.perform files method message
        else (service, service.outOfPhase message)

/-- The service behind several messages, each with the files at its time. -/
def run (service : Service) (messages : List (Files × Message)) : Service :=
  messages.foldl (fun service (files, message) => (service.step files message).1) service

end Service

end TemplateHover.Rpc
