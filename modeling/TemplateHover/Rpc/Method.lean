import TemplateHover.Rpc.Params

namespace TemplateHover.Rpc

/-- What a message with proper parameters leads to. -/
inductive Action where
  | call (call : Call)
  /-- The method is known, but it does nothing here. -/
  | unsupported

/-- A method that messages may name: whether it expects a reply, and how its parameters are
read. -/
structure Method where
  isRequest : Bool
  read? : Option Json → Option Action

namespace Method

/-- A method whose parameters describe a call. -/
def calling (isRequest : Bool) (read? : Json → Option Call) : Method where
  isRequest := isRequest
  read? params := (params.bind read?).map .call

/-- A method that does nothing here, with parameters of some shape. -/
def idle (isRequest : Bool) (shape : Shape) : Method where
  isRequest := isRequest
  read? params := (params.bind shape.normal?).map fun _ => .unsupported

/-- The first request. -/
def setUp : Method :=
  calling true setUpCall?

/-- The last request, which has no parameters. -/
def shutdown : Method where
  isRequest := true
  read?
    | none => some (.call .shutdown)
    | some _ => none

/-- Tells to give up a request. All requests are answered before the next message, so there is
nothing to give up. -/
def cancel : Method :=
  idle false (.record true [("id", Shape.token)])

end Method

namespace Shape

/-- The shape of a record with reports. -/
def reporting (fields : List (String × Shape)) : Shape :=
  .record false (fields ++ reports)

/-- The parameters of a question about a place, with reports and more fields. -/
def placeWith (fields : List (String × Shape)) : Shape :=
  reporting (placeFields ++ fields)

/-- The parameters of a question about a document, with reports and more fields. -/
def documentWith (fields : List (String × Shape)) : Shape :=
  reporting (("textDocument", document) :: fields)

/-- A piece of code as it is named in a hierarchy. -/
def hierarchyItem (tags : Shape) : Shape :=
  .record true [("name", text), ("kind", signed), ("tags", optional tags),
    ("detail", optional text), ("uri", uri), ("range", range), ("selectionRange", range),
    ("data", optional anything)]

/-- A command of the editor. -/
def command : Shape :=
  .record true [("title", text), ("command", text), ("arguments", optional (.list anything))]

/-- A remark on a range of a document. -/
def diagnostic : Shape :=
  .record true [("range", range), ("severity", optional signed), ("code", optional token),
    ("codeDescription", optional (.record true [("href", uri)])), ("source", optional text),
    ("message", text), ("relatedInformation", optional (.list anything)),
    ("tags", optional (.list signed)), ("data", optional anything)]

/-- How a document is laid out. -/
def layout : Shape :=
  .record false [("tabSize", unsigned), ("insertSpaces", truth),
    ("trimTrailingWhitespace", optional truth), ("insertFinalNewline", optional truth),
    ("trimFinalNewlines", optional truth)]

/-- The parameters of a document that is about to be saved. -/
def saving : Shape :=
  .record true [("textDocument", document), ("reason", signed)]

/-- The parameters of files that come, go or move. -/
def filesWith (fields : List (String × Shape)) : Shape :=
  .record true [("files", .list (.record true fields))]

end Shape

open Shape Method

/-- The methods about one document. -/
def documentMethods : List (String × Method) := [
  ("didOpen", calling false openedCall?),
  ("didChange", calling false changedCall?),
  ("didClose", calling false closedCall?),
  ("hover", calling true hoverCall?),
  ("willSave", idle false saving),
  ("willSaveWaitUntil", idle true saving),
  ("didSave", idle false (.record true [("textDocument", document), ("text", optional text)])),
  ("declaration", idle true (placeWith [])),
  ("definition", idle true (placeWith [])),
  ("typeDefinition", idle true (placeWith [])),
  ("implementation", idle true (placeWith [])),
  ("references",
    idle true (placeWith [("context", .record true [("includeDeclaration", truth)])])),
  ("prepareCallHierarchy", idle true (placeWith [])),
  ("prepareTypeHierarchy", idle true (placeWith [])),
  ("documentHighlight", idle true (placeWith [])),
  ("documentLink", idle true (documentWith [])),
  ("codeLens", idle true (documentWith [])),
  ("foldingRange", idle true (documentWith [])),
  ("selectionRange", idle true (documentWith [("positions", .list position)])),
  ("documentSymbol", idle true (documentWith [])),
  ("semanticTokens/full", idle true (documentWith [])),
  ("semanticTokens/full/delta", idle true (documentWith [("previousResultId", text)])),
  ("semanticTokens/range", idle true (documentWith [("range", range)])),
  ("inlineValue", idle true (documentWith [("range", range),
    ("context", .record true [("frameId", signed), ("stoppedLocation", range)])])),
  ("inlayHint", idle true (documentWith [("range", range)])),
  ("moniker", idle true (placeWith [])),
  ("completion", idle true (placeWith [("context", optional (.record true
    [("triggerKind", signed), ("triggerCharacter", optional text)]))])),
  ("diagnostic", idle true (documentWith [("identifier", optional text),
    ("previousResultId", optional text)])),
  ("signatureHelp", idle true (placeWith [("context", optional (.record true
    [("triggerKind", signed), ("triggerCharacter", optional text), ("isRetrigger", truth),
      ("activeSignatureHelp", optional anything)]))])),
  ("codeAction", idle true (documentWith [("range", range), ("context", .record true
    [("diagnostics", .list diagnostic), ("only", optional (.list text)),
      ("triggerKind", optional signed)])])),
  ("documentColor", idle true (documentWith [])),
  ("colorPresentation", idle true (documentWith [("color", .record true
    [("red", number), ("green", number), ("blue", number), ("alpha", number)]),
    ("range", range)])),
  ("formatting", idle true (documentWith [("options", layout)])),
  ("rangeFormatting", idle true (documentWith [("range", range), ("options", layout)])),
  ("onTypeFormatting", idle true (placeWith [("ch", text), ("options", layout)])),
  ("rename", idle true (placeWith [("newName", text)])),
  ("prepareRename", idle true (.record true placeFields)),
  ("linkedEditingRange", idle true (placeWith []))]

/-- The methods about all documents. -/
def workspaceMethods : List (String × Method) := [
  ("symbol", idle true (reporting [("query", text)])),
  ("diagnostic", idle true (reporting [("identifier", optional text),
    ("previousResultIds", .list (.record true [("uri", uri), ("value", text)]))])),
  ("didChangeConfiguration", idle false (.record true [("settings", anything)])),
  ("didChangeWorkspaceFolders", idle false (.record true
    [("event", .record true [("added", .list folder), ("removed", .list folder)])])),
  ("willCreateFiles", idle true (filesWith [("uri", text)])),
  ("didCreateFiles", idle false (filesWith [("uri", text)])),
  ("willRenameFiles", idle true (filesWith [("oldUri", text), ("newUri", text)])),
  ("didRenameFiles", idle false (filesWith [("oldUri", text), ("newUri", text)])),
  ("willDeleteFiles", idle true (filesWith [("uri", text)])),
  ("didDeleteFiles", idle false (filesWith [("uri", text)])),
  ("didChangeWatchedFiles", idle false (.record true
    [("changes", .list (.record true [("uri", uri), ("type", signed)]))])),
  ("executeCommand", idle true (reporting [("command", text),
    ("arguments", optional (.list anything))]))]

/-- The methods that go on with the result of another one. -/
def followingMethods : List (String × Method) := [
  ("callHierarchy/incomingCalls",
    idle true (reporting [("item", hierarchyItem (.list signed))])),
  ("callHierarchy/outgoingCalls",
    idle true (reporting [("item", hierarchyItem (.list signed))])),
  ("typeHierarchy/supertypes", idle true (reporting [("item", hierarchyItem signed)])),
  ("typeHierarchy/subtypes", idle true (reporting [("item", hierarchyItem signed)])),
  ("documentLink/resolve", idle true (.record true [("range", range), ("target", optional uri),
    ("tooltip", optional text), ("data", optional anything)])),
  ("codeLens/resolve", idle true (.record true [("range", range), ("command", optional command),
    ("data", optional anything)])),
  ("inlayHint/resolve", idle true (.record false [("position", position),
    ("label", either text (.list (.record false [("value", text)])))])),
  ("completionItem/resolve", idle true (.record false [("label", text)])),
  ("codeAction/resolve", idle true (.record false [("title", text)])),
  ("workspaceSymbol/resolve", idle true (.record false [("name", text), ("kind", signed),
    ("location", .record false [("uri", uri), ("range", optional range)])]))]

/-- The methods of a session that has started, by their full names. -/
def methods : List (String × Method) :=
  ("initialized", calling false fun json => ((record true []).normal? json).map fun _ => .ready) ::
    documentMethods.map (fun (name, method) => ("textDocument/" ++ name, method)) ++
    workspaceMethods.map (fun (name, method) => ("workspace/" ++ name, method)) ++
    followingMethods

end TemplateHover.Rpc
