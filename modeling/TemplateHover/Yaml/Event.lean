import TemplateHover.Yaml.Fault
import TemplateHover.Yaml.Token

namespace TemplateHover.Yaml

/-- A scalar node: its value, how it is written and where it starts. A missing node is a plain
scalar without any text. -/
structure Scalar where
  value : String
  style : ScalarStyle
  mark : Mark
deriving DecidableEq, Repr

/-- The events of a stream. Each node of a document is a scalar, an alias, or a collection between
its start and its end; a mapping alternates between keys and values. -/
inductive Event where
  | streamStart
  | streamEnd
  | documentStart
  | documentEnd
  | alias
  | scalar (scalar : Scalar)
  | sequenceStart
  | sequenceEnd
  | mappingStart
  | mappingEnd
deriving DecidableEq, Repr

/-- What the grammar of a stream expects next. -/
inductive Goal where
  /-- The start of the stream. -/
  | stream
  /-- A document that needs no marker before it, or the end of the stream. -/
  | bareDocument
  /-- A document behind its marker, or the end of the stream. -/
  | document
  /-- The root of a document behind its marker, which may be missing. -/
  | root
  /-- The root of a document without a marker. -/
  | bareRoot
  /-- The end of a document. -/
  | documentEnd
  /-- An entry of a block sequence, or its end. -/
  | blockEntry
  /-- An entry of a sequence that is not indented further than its key, or its end. -/
  | flatEntry
  /-- A key of a block mapping, or its end. -/
  | blockKey
  /-- A value of a block mapping. -/
  | blockValue
  /-- An entry of a flow sequence, or its end. -/
  | flowEntry (first : Bool)
  /-- The key of a pair in a flow sequence. -/
  | pairKey
  /-- The value of a pair in a flow sequence. -/
  | pairValue
  /-- The end of a pair in a flow sequence. -/
  | pairEnd
  /-- A key of a flow mapping, or its end. -/
  | flowKey (first : Bool)
  /-- A value of a flow mapping. -/
  | flowValue
  /-- The missing value of a flow mapping. -/
  | flowNoValue
deriving DecidableEq

/-- The state of a parse: the tokens to come, the goals to reach in their order, the anchors of the
document and the handle that the last directive declared. -/
structure Parse where
  tokens : List Token
  goals : List Goal
  anchors : List String
  handle : Option String

namespace Parse

/-- An event and the state behind it. -/
abbrev Step := Except Fault (Event × Parse)

/-- Emits an event with these tokens and goals to come. -/
def emit (parse : Parse) (event : Event) (tokens : List Token) (goals : List Goal) : Step :=
  .ok (event, { parse with tokens := tokens, goals := goals })

/-- Emits a missing node at a place, with these tokens and goals to come. -/
def emitEmpty (parse : Parse) (mark : Mark) (tokens : List Token) (goals : List Goal) : Step :=
  parse.emit (.scalar ⟨"", .plain, mark⟩) tokens goals

/-- Whether a tag may use a handle. The one of the core tags needs no declaration. -/
def knows (parse : Parse) (handle : String) : Bool :=
  handle.isEmpty || handle = "!!" || parse.handle = some handle

/-- The start of a node behind its anchor and tag: the state with the anchor known, the tokens to
come, and whether there was an anchor or a tag. -/
def properties (parse : Parse) : List Token → Except Fault (Parse × List Token × Bool)
  | ⟨_, .anchor name⟩ :: ⟨_, .tag handle⟩ :: rest =>
    if parse.knows handle then .ok ({ parse with anchors := name :: parse.anchors }, rest, true)
    else .error .undeclaredHandle
  | ⟨_, .tag handle⟩ :: ⟨_, .anchor name⟩ :: rest =>
    if parse.knows handle then .ok ({ parse with anchors := name :: parse.anchors }, rest, true)
    else .error .undeclaredHandle
  | ⟨_, .anchor name⟩ :: rest => .ok ({ parse with anchors := name :: parse.anchors }, rest, true)
  | ⟨_, .tag handle⟩ :: rest =>
    if parse.knows handle then .ok (parse, rest, true) else .error .undeclaredHandle
  | tokens => .ok (parse, tokens, false)

/-- The content of a node behind its properties. Block collections may stand only in a block, and
a sequence without indentation only where `flat` says so. Behind a property it may be missing. -/
def content (parse : Parse) (block flat hasProperties : Bool) (tokens : List Token)
    (goals : List Goal) : Step :=
  match tokens with
  | [] => .error .unexpectedToken
  | ⟨mark, kind⟩ :: rest =>
    match kind, block, flat, hasProperties with
    | .blockEntry, _, true, _ => parse.emit .sequenceStart tokens (.flatEntry :: goals)
    | .scalar style value, _, _, _ => parse.emit (.scalar ⟨value, style, mark⟩) rest goals
    | .flowSequenceStart, _, _, _ => parse.emit .sequenceStart rest (.flowEntry true :: goals)
    | .flowMappingStart, _, _, _ => parse.emit .mappingStart rest (.flowKey true :: goals)
    | .blockSequenceStart, true, _, _ => parse.emit .sequenceStart rest (.blockEntry :: goals)
    | .blockMappingStart, true, _, _ => parse.emit .mappingStart rest (.blockKey :: goals)
    | _, _, _, true => parse.emitEmpty mark tokens goals
    | _, _, _, false => .error .unexpectedToken

/-- A node. An alias has to name an anchor before it. -/
def node (parse : Parse) (block flat : Bool) (tokens : List Token) (goals : List Goal) : Step :=
  match tokens with
  | ⟨_, .alias name⟩ :: rest =>
    if parse.anchors.contains name then parse.emit .alias rest goals else .error .unknownAlias
  | _ =>
    match parse.properties tokens with
    | .error fault => .error fault
    | .ok (parse, tokens, hasProperties) => parse.content block flat hasProperties tokens goals

/-- Reads the directives before a document. A handle is declared until the next directive. -/
def directives (handle : Option String) (versioned : Bool) :
    List Token → Except Fault (Option String × List Token)
  | ⟨_, .versionDirective⟩ :: rest =>
    if versioned then .error .repeatedDirective else directives none true rest
  | ⟨_, .tagDirective declared⟩ :: rest =>
    if handle = some declared then .error .repeatedDirective
    else directives (some declared) versioned rest
  | tokens => .ok (handle, tokens)

/-- A document behind its directives and its marker. -/
def markedDocument (parse : Parse) (tokens : List Token) (goals : List Goal) : Step :=
  match directives parse.handle false tokens with
  | .error fault => .error fault
  | .ok (handle, ⟨_, .documentStart⟩ :: rest) =>
    { parse with handle := handle, anchors := [] }.emit .documentStart rest
      (.root :: .documentEnd :: goals)
  | .ok _ => .error .unexpectedToken

/-- Whether a token is a directive. -/
def isDirective : TokenKind → Bool
  | .versionDirective => true
  | .tagDirective _ => true
  | _ => false

/-- The start of a document behind the ends of others, or the end of the stream. -/
def documentStart (parse : Parse) (bare : Bool) (goals : List Goal) : List Token → Step
  | [] => .error .unexpectedToken
  | ⟨mark, kind⟩ :: rest =>
    if kind = .documentEnd then documentStart parse bare goals rest
    else if kind = .streamEnd then parse.emit .streamEnd rest goals
    else if bare && kind != .documentStart && !isDirective kind then
      { parse with anchors := [] }.emit .documentStart (⟨mark, kind⟩ :: rest)
        (.bareRoot :: .documentEnd :: goals)
    else parse.markedDocument (⟨mark, kind⟩ :: rest) goals

/-- The end of a document. Directives may follow only behind an explicit end. -/
def documentEnd (parse : Parse) (goals : List Goal) : List Token → Step
  | [] => .error .unexpectedToken
  | ⟨mark, kind⟩ :: rest =>
    let parse := { parse with handle := none }
    if kind = .documentEnd then parse.emit .documentEnd rest (.bareDocument :: goals)
    else if isDirective kind then .error .unexpectedToken
    else parse.emit .documentEnd (⟨mark, kind⟩ :: rest) (.document :: goals)

/-- Whether a token ends a node of a block mapping before it starts. -/
def endsBlockNode : TokenKind → Bool
  | .key => true
  | .value => true
  | .blockEnd => true
  | _ => false

/-- A node of a block mapping that may be missing. -/
def blockNode (parse : Parse) (goals : List Goal) : List Token → Step
  | [] => .error .unexpectedToken
  | ⟨mark, kind⟩ :: rest =>
    if endsBlockNode kind then parse.emitEmpty mark (⟨mark, kind⟩ :: rest) goals
    else parse.node true true (⟨mark, kind⟩ :: rest) goals

/-- An entry of a sequence in a block that may be missing before the given tokens. -/
def sequenceNode (parse : Parse) (ends : TokenKind → Bool) (goals : List Goal) : List Token → Step
  | [] => .error .unexpectedToken
  | ⟨mark, kind⟩ :: rest =>
    if ends kind then parse.emitEmpty mark (⟨mark, kind⟩ :: rest) goals
    else parse.node true false (⟨mark, kind⟩ :: rest) goals

/-- An entry of a flow sequence behind its comma. A key starts a pair. -/
def flowItem (parse : Parse) (goals : List Goal) : List Token → Step
  | ⟨_, .flowSequenceEnd⟩ :: rest => parse.emit .sequenceEnd rest goals
  | ⟨_, .key⟩ :: rest => parse.emit .mappingStart rest (.pairKey :: .flowEntry false :: goals)
  | tokens => parse.node false false tokens (.flowEntry false :: goals)

/-- A key of a flow mapping behind its comma. -/
def flowKeyItem (parse : Parse) (goals : List Goal) : List Token → Step
  | ⟨_, .flowMappingEnd⟩ :: rest => parse.emit .mappingEnd rest goals
  | ⟨_, .key⟩ :: ⟨mark, kind⟩ :: rest =>
    if kind = .value || kind = .flowEntry || kind = .flowMappingEnd then
      parse.emitEmpty mark (⟨mark, kind⟩ :: rest) (.flowValue :: .flowKey false :: goals)
    else
      parse.node false false (⟨mark, kind⟩ :: rest) (.flowValue :: .flowKey false :: goals)
  | ⟨mark, .value⟩ :: rest =>
    parse.emitEmpty mark (⟨mark, .value⟩ :: rest) (.flowValue :: .flowKey false :: goals)
  | tokens => parse.node false false tokens (.flowNoValue :: .flowKey false :: goals)

/-- Reaches one goal, with the given goals behind it. -/
def reach (parse : Parse) (goal : Goal) (goals : List Goal) : Step :=
  match goal, parse.tokens with
  | _, [] => .error .unexpectedToken
  | .stream, ⟨_, kind⟩ :: rest =>
    if kind = .streamStart then parse.emit .streamStart rest (.bareDocument :: goals)
    else .error .unexpectedToken
  | .bareDocument, tokens => parse.documentStart true goals tokens
  | .document, tokens => parse.documentStart false goals tokens
  | .root, ⟨mark, kind⟩ :: rest =>
    if isDirective kind || kind = .documentStart || kind = .documentEnd || kind = .streamEnd then
      parse.emitEmpty mark (⟨mark, kind⟩ :: rest) goals
    else parse.node true false (⟨mark, kind⟩ :: rest) goals
  | .bareRoot, tokens => parse.node true false tokens goals
  | .documentEnd, tokens => parse.documentEnd goals tokens
  | .blockEntry, ⟨_, kind⟩ :: rest =>
    if kind = .blockEnd then parse.emit .sequenceEnd rest goals
    else if kind = .blockEntry then
      parse.sequenceNode (fun kind => kind = .blockEntry || kind = .blockEnd)
        (.blockEntry :: goals) rest
    else .error .unexpectedToken
  | .flatEntry, ⟨mark, kind⟩ :: rest =>
    if kind = .blockEntry then
      parse.sequenceNode (fun kind => kind = .blockEntry || endsBlockNode kind)
        (.flatEntry :: goals) rest
    else parse.emit .sequenceEnd (⟨mark, kind⟩ :: rest) goals
  | .blockKey, ⟨mark, kind⟩ :: rest =>
    if kind = .key then parse.blockNode (.blockValue :: .blockKey :: goals) rest
    else if kind = .value then
      parse.emitEmpty mark (⟨mark, kind⟩ :: rest) (.blockValue :: .blockKey :: goals)
    else if kind = .blockEnd then parse.emit .mappingEnd rest goals
    else .error .unexpectedToken
  | .blockValue, ⟨mark, kind⟩ :: rest =>
    if kind = .value then parse.blockNode goals rest
    else parse.emitEmpty mark (⟨mark, kind⟩ :: rest) goals
  | .flowEntry first, ⟨mark, kind⟩ :: rest =>
    if kind = .flowSequenceEnd then parse.emit .sequenceEnd rest goals
    else if first then parse.flowItem goals (⟨mark, kind⟩ :: rest)
    else if kind = .flowEntry then parse.flowItem goals rest
    else .error .unexpectedToken
  | .pairKey, ⟨mark, kind⟩ :: rest =>
    if kind = .value || kind = .flowEntry || kind = .flowSequenceEnd then
      parse.emitEmpty mark rest (.pairValue :: goals)
    else parse.node false false (⟨mark, kind⟩ :: rest) (.pairValue :: goals)
  | .pairValue, ⟨mark, kind⟩ :: rest =>
    if kind = .value then
      match rest with
      | [] => .error .unexpectedToken
      | ⟨mark, kind⟩ :: more =>
        if kind = .flowEntry || kind = .flowSequenceEnd then
          parse.emitEmpty mark (⟨mark, kind⟩ :: more) (.pairEnd :: goals)
        else parse.node false false (⟨mark, kind⟩ :: more) (.pairEnd :: goals)
    else parse.emitEmpty mark (⟨mark, kind⟩ :: rest) (.pairEnd :: goals)
  | .pairEnd, tokens => parse.emit .mappingEnd tokens goals
  | .flowKey first, ⟨mark, kind⟩ :: rest =>
    if kind = .flowMappingEnd then parse.emit .mappingEnd rest goals
    else if first then parse.flowKeyItem goals (⟨mark, kind⟩ :: rest)
    else if kind = .flowEntry then parse.flowKeyItem goals rest
    else .error .unexpectedToken
  | .flowValue, ⟨mark, kind⟩ :: rest =>
    if kind = .value then
      match rest with
      | [] => .error .unexpectedToken
      | ⟨_, next⟩ :: _ =>
        if next = .flowEntry || next = .flowMappingEnd then parse.emitEmpty mark rest goals
        else parse.node false false rest goals
    else parse.emitEmpty mark (⟨mark, kind⟩ :: rest) goals
  | .flowNoValue, ⟨mark, kind⟩ :: rest => parse.emitEmpty mark (⟨mark, kind⟩ :: rest) goals

/-- The events up to the last goal, of which at most the given number is to come. -/
def run : (fuel : Nat) → Parse → Except Fault (List Event)
  | 0, _ => .error .unexpectedToken
  | fuel + 1, parse =>
    match parse.goals with
    | [] => .ok []
    | goal :: goals =>
      match parse.reach goal goals with
      | .error fault => .error fault
      | .ok (event, next) =>
        match run fuel next with
        | .error fault => .error fault
        | .ok events => .ok (event :: events)

end Parse

/-- The events of the documents that a list of tokens describes. Between two tokens there are at most
four events of missing nodes and of collections that end without a token. -/
def eventsOfTokens (tokens : List Token) : Except Fault (List Event) :=
  Parse.run (8 * tokens.length + 8) ⟨tokens, [.stream], [], none⟩

end TemplateHover.Yaml
