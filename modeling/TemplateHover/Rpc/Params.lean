import TemplateHover.Rpc.Shape
import TemplateHover.Session.Basic

namespace TemplateHover.Rpc

namespace Shape

/-- A place in a document. -/
def position : Shape :=
  .record true [("line", unsigned), ("character", unsigned)]

/-- The text between two places. -/
def range : Shape :=
  .record true [("start", position), ("end", position)]

/-- A document by its URI. -/
def document : Shape :=
  .record true [("uri", uri)]

/-- A folder of the editor. -/
def folder : Shape :=
  .record true [("uri", uri), ("name", text)]

/-- A name for progress reports. -/
def token : Shape :=
  either signed text

/-- The fields that ask for reports on progress and on partial results. -/
def reports : List (String × Shape) :=
  [("workDoneToken", optional token), ("partialResultToken", optional token)]

/-- The fields that name a place in a document. -/
def placeFields : List (String × Shape) :=
  [("textDocument", document), ("position", position)]

/-- The parameters of a question about a place. -/
def place : Shape :=
  .record false (placeFields ++ [("workDoneToken", optional token)])

/-- The parameters of a document that was opened. -/
def opening : Shape :=
  .record true [("textDocument",
    .record true [("uri", uri), ("languageId", text), ("version", signed), ("text", text)])]

/-- The parameters of a document that was changed. -/
def changing : Shape :=
  .record true [
    ("textDocument", .record true [("uri", uri), ("version", signed)]),
    ("contentChanges", .list (.record true
      [("range", optional range), ("rangeLength", optional unsigned), ("text", text)]))]

/-- The parameters of a document that was closed. -/
def closing : Shape :=
  .record true [("textDocument", document)]

/-- What an editor can do. Each part is a record of its own, and what stands in it is taken as it
comes: the many single abilities are not checked, and nothing here depends on them. So an ability
of the wrong type, which a reader of all of them refuses, is let through. -/
def editor : Shape :=
  let part := optional (.record false [])
  .record false [("workspace", part), ("textDocument", part), ("notebookDocument", part),
    ("window", part), ("general", part)]

/-- The parameters of the first request. -/
def setUp : Shape :=
  .record true [
    ("processId", optional unsigned),
    ("rootPath", optional text),
    ("rootUri", optional uri),
    ("initializationOptions", optional anything),
    ("capabilities", editor),
    ("trace", optional text),
    ("workspaceFolders", optional (.list folder)),
    ("clientInfo", optional (.record true [("name", text), ("version", optional text)])),
    ("locale", optional text)]

end Shape

/-- The text of a field. -/
def textField? (json : Json) (name : String) : Option String :=
  match json.get? name with
  | some (.string text) => some text
  | _ => none

/-- The whole number of a field. -/
def wholeField? (json : Json) (name : String) : Option Int :=
  match json.get? name with
  | some (.number (.integer value)) => some value
  | _ => none

/-- The URI of a field. -/
def uriField? (json : Json) (name : String) : Option Uri :=
  (textField? json name).bind Uri.parse?

/-- The position that an object describes. -/
def position? (json : Json) : Option Position := do
  let line ← wholeField? json "line"
  let character ← wholeField? json "character"
  some ⟨UInt32.ofNat line.toNat, UInt32.ofNat character.toNat⟩

/-- The range that an object describes. -/
def range? (json : Json) : Option Range := do
  let start ← (json.get? "start").bind position?
  let stop ← (json.get? "end").bind position?
  some ⟨start, stop⟩

/-- The change that an object describes. -/
def change? (json : Json) : Option Change := do
  let text ← textField? json "text"
  some ⟨(json.get? "range").bind range?, text⟩

/-- The document and the position that an object describes. -/
def place? (json : Json) : Option (Uri × Position) := do
  let uri ← (json.get? "textDocument").bind (uriField? · "uri")
  let position ← (json.get? "position").bind position?
  some (uri, position)

/-- The call of an editor that asks what to show at a position. -/
def hoverCall? (json : Json) : Option Call := do
  let params ← Shape.place.normal? json
  (place? params).map fun (uri, position) => .hover uri position

/-- The call of the first request. How much the editor traces is one of three words. -/
def setUpCall? (json : Json) : Option Call := do
  let params ← Shape.setUp.normal? json
  match params.get? "trace" with
  | none | some .null | some (.string "off") | some (.string "messages")
  | some (.string "verbose") =>
    match params.get? "initializationOptions" with
    | none | some .null => some (.setUp none)
    | some options => some (.setUp (some options))
  | _ => none

/-- The call of an editor that has opened a document. -/
def openedCall? (json : Json) : Option Call := do
  let params ← Shape.opening.normal? json
  let item ← params.get? "textDocument"
  let uri ← uriField? item "uri"
  let version ← wholeField? item "version"
  let text ← textField? item "text"
  some (.opened uri (Int32.ofInt version) text)

/-- The call of an editor that has changed a document. -/
def changedCall? (json : Json) : Option Call := do
  let params ← Shape.changing.normal? json
  let item ← params.get? "textDocument"
  let uri ← uriField? item "uri"
  let version ← wholeField? item "version"
  match params.get? "contentChanges" with
  | some (.array changes) =>
    (changes.mapM change?).map fun changes => .changed uri (Int32.ofInt version) changes
  | _ => none

/-- The call of an editor that has closed a document. -/
def closedCall? (json : Json) : Option Call := do
  let params ← Shape.closing.normal? json
  let item ← params.get? "textDocument"
  (uriField? item "uri").map .closed

end TemplateHover.Rpc
