import TemplateHover.Hover.Tooltip

namespace TemplateHover

/-- How much a message to the editor matters. -/
inductive LogLevel where
  | error
  | warning
  | info
  | log
deriving DecidableEq, Repr

/-- The number of a level in messages. -/
def LogLevel.code : LogLevel → Nat
  | .error => 1
  | .warning => 2
  | .info => 3
  | .log => 4

/-- A message to the editor. -/
structure Log where
  level : LogLevel
  message : String
deriving DecidableEq, Repr

/-- Why a request is refused. -/
inductive Refusal where
  | notInitialized
  | invalidRequest
  | methodNotFound
  | invalidParams (message : String)
  | internalError (message : String)
deriving DecidableEq, Repr

namespace Refusal

/-- The code of a refusal in messages. -/
def code : Refusal → Int
  | .notInitialized => -32002
  | .invalidRequest => -32600
  | .methodNotFound => -32601
  | .invalidParams _ => -32602
  | .internalError _ => -32603

/-- What a refusal says. -/
def message : Refusal → String
  | .notInitialized => "Server not initialized"
  | .invalidRequest => "Invalid request"
  | .methodNotFound => "Method not found"
  | .invalidParams message => message
  | .internalError message => message

end Refusal

/-- What a call gives back. -/
inductive Outcome where
  | nothing
  /-- What the server can do, for the editor that starts a session. -/
  | capabilities
  | tooltip (tooltip : Tooltip)
deriving DecidableEq, Repr

/-- What the server can do: it takes whole documents and answers what stands at a position. -/
def capabilities : Json :=
  .ofMembers [
    ("capabilities", .ofMembers [("hoverProvider", .bool true), ("textDocumentSync", .int 1)]),
    ("serverInfo", .ofMembers [("name", .string "helmtip"), ("version", .string "0.1.0")])]

/-- The message form of an outcome. -/
def Outcome.toJson : Outcome → Json
  | .nothing => .null
  | .capabilities => TemplateHover.capabilities
  | .tooltip shown => shown.toJson

/-- The result of a call, and the messages that it sent to the editor before. -/
structure Answer where
  result : Except Refusal Outcome
  logs : List Log

namespace Answer

/-- The answer of a call that succeeds without a word. -/
def ok (outcome : Outcome) : Answer :=
  ⟨.ok outcome, []⟩

/-- The answer of a call that is refused without a word. -/
def refused (refusal : Refusal) : Answer :=
  ⟨.error refusal, []⟩

/-- The answer of a call that only tells the editor something. -/
def logged (level : LogLevel) (message : String) : Answer :=
  ⟨.ok .nothing, [⟨level, message⟩]⟩

end Answer

end TemplateHover
