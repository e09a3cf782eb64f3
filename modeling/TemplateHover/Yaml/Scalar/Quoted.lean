import TemplateHover.Text.Hex
import TemplateHover.Yaml.Scalar.Fold
import TemplateHover.Yaml.Space

namespace TemplateHover.Yaml

/-- Where the scan of a quoted scalar stands. -/
inductive QuotedMode where
  /-- In a run of text. -/
  | text
  /-- Behind blanks, or behind the first line break of a gap in the text. -/
  | space (leading : Bool)
  /-- Directly behind an escaped line break. -/
  | continued
  /-- Behind a single quote, which closes the scalar unless another one follows. -/
  | quote
  /-- Behind a backslash. -/
  | escape
  /-- In an escape with as many hexadecimal digits to come, behind digits of this value. -/
  | code (digits value : Nat)
deriving DecidableEq

/-- Whether only blanks were read since the last line break. -/
def QuotedMode.leading : QuotedMode → Bool
  | .space leading => leading
  | .continued => true
  | _ => false

/-- The character with the given code point, unless that is a surrogate or too large. -/
def charOfCode? (code : Nat) : Option Char :=
  if code.isValidChar then some (Char.ofNat code) else none

/-- The character that a letter behind a backslash stands for. -/
def escaped? : Char → Option Char
  | '0' => some '\x00'
  | 'a' => some '\x07'
  | 'b' => some '\x08'
  | 't' => some '\t'
  | '\t' => some '\t'
  | 'n' => some '\n'
  | 'v' => some '\x0b'
  | 'f' => some '\x0c'
  | 'r' => some '\r'
  | 'e' => some '\x1b'
  | ' ' => some ' '
  | '"' => some '"'
  | '/' => some '/'
  | '\\' => some '\\'
  | 'N' => some '\u0085'
  | '_' => some '\u00a0'
  | 'L' => some '\u2028'
  | 'P' => some '\u2029'
  | _ => none

/-- How many hexadecimal digits follow a letter behind a backslash. -/
def codeLength? : Char → Option Nat
  | 'x' => some 2
  | 'u' => some 4
  | 'U' => some 8
  | _ => none

/-- The text of a gap joined to the value, where the next text may stand only inside the
indentation and not as a document marker. -/
def joinQuoted (indent : Int) (mark : Mark) (text : List Char) (mode : QuotedMode) (fold : Fold) :
    Except Fault Fold :=
  if mark.column = 0 && atDocumentMarker text then .error .unclosedQuote
  else if (mark.column : Int) < indent then .error .indentation
  else .ok (fold.join mode.leading)

/-- Reads a quoted scalar behind its opening quote. A closing double quote may directly follow an
escaped line break wherever it stands. -/
def quotedFrom (single : Bool) (indent : Int) :
    List Char → Mark → (fresh : Bool) → QuotedMode → Fold → Except Fault ScalarText
  | [], mark, fresh, mode, fold =>
    if mode = .quote then .ok ⟨fold.value, [], mark, fresh⟩ else .error .unclosedQuote
  | c :: rest, mark, fresh, mode, fold =>
    match mode with
    | .quote =>
      if c = '\'' then quotedFrom single indent rest (mark.right 1) false .text (fold.push c)
      else .ok ⟨fold.value, c :: rest, mark, fresh⟩
    | .escape =>
      if isBreak c then quotedFrom single indent rest mark.down true .continued fold
      else
        match escaped? c, codeLength? c with
        | some meaning, _ =>
          quotedFrom single indent rest (mark.right 1) false .text (fold.push meaning)
        | none, some digits =>
          quotedFrom single indent rest (mark.right 1) false (.code digits 0) fold
        | none, none => .error .badEscape
    | .code digits value =>
      match hexDigit? c with
      | none => .error .badEscape
      | some digit =>
        if 1 < digits then
          quotedFrom single indent rest (mark.right 1) false
            (.code (digits - 1) (value * 16 + digit)) fold
        else
          match charOfCode? (value * 16 + digit) with
          | none => .error .badEscape
          | some meaning =>
            quotedFrom single indent rest (mark.right 1) false .text (fold.push meaning)
    | mode =>
      if mode = .continued && c = '"' then .ok ⟨fold.value, rest, mark.right 1, false⟩
      else if isBreak c then
        quotedFrom single indent rest mark.down true (.space true) (fold.lineBreak mode.leading)
      else if isBlank c then
        if !mode.leading then
          quotedFrom single indent rest (mark.right 1) fresh (.space false) (fold.blank c)
        else if c = '\t' && decide ((mark.column : Int) < indent) then .error .tabIndentation
        else quotedFrom single indent rest (mark.right 1) fresh (.space true) fold
      else
        match if mode = .text then .ok fold else joinQuoted indent mark (c :: rest) mode fold with
        | .error fault => .error fault
        | .ok fold =>
          if single && c = '\'' then
            quotedFrom single indent rest (mark.right 1) false .quote fold
          else if !single && c = '"' then .ok ⟨fold.value, rest, mark.right 1, false⟩
          else if !single && c = '\\' then
            quotedFrom single indent rest (mark.right 1) false .escape fold
          else quotedFrom single indent rest (mark.right 1) false .text (fold.push c)

/-- Whether a quoted scalar may be followed by this on its last line: the end of the line, the
colon of a value, or the punctuation of a flow collection. In a block a key stays on one line. -/
def mayFollowQuoted (flow oneLine : Bool) : List Char → Bool
  | [] => true
  | c :: _ =>
    isBreak c || (c = ':' && (flow || oneLine)) ||
      (flow && (c = ',' || c = '\x7d' || c = ']'))

/-- Reads the quoted scalar that starts here and the blanks behind it. -/
def Cursor.quotedScalar (cursor : Cursor) (single flow : Bool) (indent : Int) :
    Except Fault ScalarText :=
  let opened := cursor.skip 1
  match quotedFrom single indent opened.rest opened.mark opened.fresh .text .empty with
  | .error fault => .error fault
  | .ok scalar =>
    match scalar.cursor.skipLineRest with
    | .error fault => .error fault
    | .ok behind =>
      if mayFollowQuoted flow (cursor.mark.line = behind.cursor.mark.line) behind.cursor.rest then
        .ok ⟨scalar.value, behind.cursor⟩
      else .error .trailingText

end TemplateHover.Yaml
