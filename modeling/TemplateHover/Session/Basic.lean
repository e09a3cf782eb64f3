import TemplateHover.Hover.Provider
import TemplateHover.Session.Answer
import TemplateHover.Session.Documents
import TemplateHover.Settings
import TemplateHover.Symbol.Builtin
import TemplateHover.Symbol.File

namespace TemplateHover

/-- A change of a document. Its text is the whole document, whatever range it names. -/
structure Change where
  range : Option Range
  text : String
deriving DecidableEq, Repr

/-- What an editor asks for or tells. -/
inductive Call where
  | setUp (options : Option Json)
  | ready
  | shutdown
  | opened (uri : Uri) (version : Int32) (text : String)
  | changed (uri : Uri) (version : Int32) (changes : List Change)
  | closed (uri : Uri)
  | hover (uri : Uri) (position : Position)
  | completion (uri : Uri) (position : Position)

/-- A session with an editor: the maker of tooltips once it is set up, and the open documents. -/
structure Session where
  provider : Option Provider
  documents : Documents
deriving DecidableEq

namespace Session

/-- The session before the first call. -/
def start : Session :=
  ⟨none, []⟩

/-- The symbols that settings ask for: the builtin ones, and behind them those of a file. -/
def tableFor (files : Files) (settings : Settings) : Except LoadFault SymbolTable :=
  match settings.symbols with
  | none => .ok .builtin
  | some path =>
    match SymbolTable.load files path with
    | .error fault => .error fault
    | .ok table => .ok (.builtin ++ table)

/-- The settings that options describe. Without options they are the default ones. -/
def settingsOf : Option Json → Except Settings.Fault Settings
  | none => .ok .default
  | some options => Settings.ofJson options

/-- Sets up the maker of tooltips if there is none yet. -/
def activate (files : Files) (settings : Settings) (session : Session) :
    Except LoadFault Session :=
  match session.provider with
  | some _ => .ok session
  | none =>
    match tableFor files settings with
    | .error fault => .error fault
    | .ok table => .ok { session with provider := some ⟨table, settings.language⟩ }

/-- Starts a session. Options at fault are refused even if they have no effect any more. -/
def setUp (files : Files) (options : Option Json) (session : Session) : Session × Answer :=
  match settingsOf options with
  | .error fault => (session, .refused (.invalidParams fault.message))
  | .ok settings =>
    match session.activate files settings with
    | .error fault =>
      (session, .refused (.internalError ("Failed to load symbols: " ++ joinAccount fault.account)))
    | .ok activated => (activated, .ok .capabilities)

/-- Replaces a document by the last of its changes. A document that is not open gets opened. -/
def change (uri : Uri) (version : Int32) (changes : List Change) (session : Session) :
    Session × Answer :=
  match changes.getLast? with
  | none => (session, .logged .warning "No content changes found")
  | some last =>
    let changed :=
      { session with documents := session.documents.insert uri ⟨last.text, version⟩ }
    match session.documents.get? uri with
    | some _ => (changed, .ok .nothing)
    | none =>
      (changed,
        .logged .warning ("didChange for unopened document " ++ uri.text ++ ", opening it"))

/-- What came of the question what to show at a position. -/
def resolve (provider : Provider) (documents : Documents) (uri : Uri) (position : Position) :
    Resolution :=
  match documents.get? uri with
  | none => .unknownDocument
  | some document => provider.resolve document position

/-- The answer to an editor that asks what to show at a position. Once tooltips are set up the
question is never refused: the one reason would be a word too long for its pattern to be built, and
that is assumed not to happen. -/
def hover (uri : Uri) (position : Position) (session : Session) : Answer :=
  match session.provider with
  | none =>
    ⟨.error (.internalError "Internal error"),
      [⟨.error, "Failed to get hover: Hover provider not initialized"⟩]⟩
  | some provider =>
    match resolve provider session.documents uri position with
    | .found tooltip => .ok (.tooltip tooltip)
    | other => .logged .log ("no hover: " ++ other.description)

/-- The session behind a call, and its answer. -/
def step (files : Files) (session : Session) : Call → Session × Answer
  | .setUp options => session.setUp files options
  | .ready => (session, .logged .info "server initialized!")
  | .shutdown => ({ session with documents := [] }, .ok .nothing)
  | .opened uri version text =>
    ({ session with documents := session.documents.insert uri ⟨text, version⟩ },
      .logged .info ("didOpen - " ++ uri.text))
  | .changed uri version changes => session.change uri version changes
  | .closed uri => ({ session with documents := session.documents.erase uri }, .ok .nothing)
  | .hover uri position => (session, session.hover uri position)
  | .completion _ _ => (session, .refused .methodNotFound)

/-- The session behind several calls, each with the files at its time. -/
def run (session : Session) (calls : List (Files × Call)) : Session :=
  calls.foldl (fun session (files, call) => (session.step files call).1) session

end Session

end TemplateHover
