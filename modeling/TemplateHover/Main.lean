import TemplateHover.Json.Parser
import TemplateHover.Rpc.Wire

namespace TemplateHover.Rpc

/-- Why the system could not open or read a file. -/
def readFault : IO.Error → ReadFault
  | .noFileOrDirectory _ _ _ => .notFound
  | .inappropriateType _ code _ => if code = 20 then .notDirectory else .isDirectory
  | _ => .notFound

/-- The text of a file of the system. -/
def readText (path : String) : IO (Except ReadFault String) := do
  try
    let bytes ← IO.FS.readBinFile path
    match String.fromUTF8? bytes with
    | some text => return .ok text
    | none => return .error .notText
  catch error => return .error (readFault error)

/-- Reads a header up to its empty line, and gives the length of the message behind it. -/
partial def readHeader (input : IO.FS.Stream) (length : Option Nat) : IO (Option Nat) := do
  let line ← input.getLine
  if line.isEmpty then return none
  else if line.trimAscii.isEmpty then return length
  else readHeader input ((contentLength? line).or length)

/-- Reads a number of bytes, or fewer at the end of the input. -/
partial def readBytes (input : IO.FS.Stream) (length : Nat) (known : ByteArray) :
    IO ByteArray := do
  if length ≤ known.size then return known
  else
    let bytes ← input.read (USize.ofNat (length - known.size))
    if bytes.isEmpty then return known else readBytes input length (known ++ bytes)

/-- Sends one message after another. -/
def sendAll (output : IO.FS.Stream) (messages : List Json) : IO Unit := do
  for message in messages do
    output.putStr (frame message)
  output.flush

/-- Answers messages until the input ends or the editor leaves. -/
partial def serve (input output : IO.FS.Stream) (service : Service) : IO Unit := do
  match ← readHeader input none with
  | none => return
  | some length =>
    let bytes ← readBytes input length ByteArray.empty
    match ((String.fromUTF8? bytes).bind Json.parse?).bind Message.ofJson? with
    | none =>
      sendAll output [parseFailure]
      serve input output service
    | some message =>
      let text ←
        match message.wantedFile? with
        | none => pure (.error .notFound)
        | some path => readText path
      let (next, response) := service.step (fun _ => text) message
      sendAll output response.toJson
      unless next.phase = .exited do
        serve input output next

end TemplateHover.Rpc

/-- Serves an editor on the standard streams. -/
def main : IO Unit := do
  TemplateHover.Rpc.serve (← IO.getStdin) (← IO.getStdout) .start
