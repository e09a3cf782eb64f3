import TemplateHover.Json.Printer
import TemplateHover.Rpc.Service

namespace TemplateHover.Rpc

/-- The message that an object describes. -/
def Message.ofJson? : Json → Option Message
  | .object members =>
    match members.lookup "method" with
    | none => some ⟨members.lookup "id", "", members.lookup "params"⟩
    | some (.string method) => some ⟨members.lookup "id", method, members.lookup "params"⟩
    | some _ => none
  | _ => none

/-- The file with symbols that a message asks for. -/
def Message.wantedFile? (message : Message) : Option String := do
  if message.method = "initialize" then
    match ← setUpCall? (← message.params) with
    | .setUp (some options) =>
      match Settings.ofJson options with
      | .ok settings => settings.symbols
      | .error _ => none
    | _ => none
  else none

/-- An object with the version of the message form. -/
def envelope (members : List (String × Json)) : Json :=
  .ofMembers (("jsonrpc", .string "2.0") :: members)

/-- The message form of a refusal. -/
def refusalJson (refusal : Refusal) : Json :=
  .ofMembers [("code", .int refusal.code), ("message", .string refusal.message)]

/-- The message form of a reply, if there is one. -/
def Reply.toJson? : Reply → Option Json
  | .silence | .exited => none
  | .answer id (.ok outcome) => some (envelope [("id", id), ("result", outcome.toJson)])
  | .answer id (.error refusal) => some (envelope [("id", id), ("error", refusalJson refusal)])

/-- The message form of a message to the editor. -/
def logJson (log : Log) : Json :=
  envelope [("method", .string "window/logMessage"),
    ("params", .ofMembers [("type", .int log.level.code), ("message", .string log.message)])]

/-- The objects that a response sends, in their order. -/
def Response.toJson (response : Response) : List Json :=
  response.logs.map logJson ++ response.reply.toJson?.toList

/-- The object that answers what is no message. -/
def parseFailure : Json :=
  envelope [("id", .null),
    ("error", .ofMembers [("code", .int (-32700)), ("message", .string "Parse error")])]

/-- The length that a line of a header announces for the message behind it. -/
def contentLength? (line : String) : Option Nat :=
  match line.splitOn ":" with
  | [name, value] =>
    if name.trimAscii.toString.toLower = "content-length" then value.trimAscii.toString.toNat?
    else none
  | _ => none

/-- A message with its header. -/
def frame (json : Json) : String :=
  let body := json.render
  "Content-Length: " ++ toString body.utf8ByteSize ++ "\r\n\r\n" ++ body

end TemplateHover.Rpc
