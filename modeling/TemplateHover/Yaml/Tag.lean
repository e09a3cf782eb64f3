import TemplateHover.Yaml.Scalar.Quoted

namespace TemplateHover.Yaml

/-- Whether a character may stand in the address of a tag. -/
def isUriChar (c : Char) : Bool :=
  isNameChar c ||
    ['#', ';', '/', '?', ':', '@', '&', '=', '+', '$', ',', '.', '!', '~', '*', '\'', '(', ')', '[',
      ']', '%'].contains c

/-- Whether a character may stand in the short name of a tag. -/
def isTagChar (c : Char) : Bool :=
  isUriChar c && !isFlow c && c != '!'

/-- How many bytes a character takes whose first byte is given. -/
def byteCount? (byte : Nat) : Option Nat :=
  if byte < 0x80 then some 1
  else if 0xc0 ≤ byte && byte < 0xe0 then some 2
  else if 0xe0 ≤ byte && byte < 0xf0 then some 3
  else if 0xf0 ≤ byte && byte < 0xf8 then some 4
  else none

/-- Where the scan of an address stands. -/
inductive UriMode where
  /-- Between characters. -/
  | text
  /-- Behind a percent sign, with as many bytes of a character to come behind those of `code`. -/
  | percent (more code : Nat)
  /-- Behind the first hexadecimal digit of a byte. -/
  | digit (more code high : Nat)
  /-- Behind a byte, with further bytes of its character to come. -/
  | byte (more code : Nat)

/-- What follows a byte of an escaped character, which starts when no byte is expected. The bytes
of a character are written side by side and name a code point together. -/
def uriByte (more code byte : Nat) : Except Fault UriMode :=
  let length? := if more = 0 then byteCount? byte else if byte / 64 = 2 then some more else none
  match length? with
  | none => .error .badEscape
  | some length =>
    let joined := code * 256 + byte
    if 1 < length then .ok (.byte (length - 1) joined)
    else if joined.isValidChar then .ok .text
    else .error .badEscape

/-- The number of characters of an address at the front of a text. Escapes have to name
characters. -/
def uriLength (kind : Char → Bool) : List Char → UriMode → Nat → Except Fault Nat
  | [], .text, count => .ok count
  | [], _, _ => .error .badEscape
  | c :: rest, .text, count =>
    if !kind c then .ok count
    else if c = '%' then uriLength kind rest (.percent 0 0) (count + 1)
    else uriLength kind rest .text (count + 1)
  | c :: rest, .byte more code, count =>
    if c = '%' then uriLength kind rest (.percent more code) (count + 1) else .error .badEscape
  | c :: rest, .percent more code, count =>
    match hexDigit? c with
    | none => .error .badEscape
    | some high => uriLength kind rest (.digit more code high) (count + 1)
  | c :: rest, .digit more code high, count =>
    match hexDigit? c with
    | none => .error .badEscape
    | some low =>
      match uriByte more code (high * 16 + low) with
      | .error fault => .error fault
      | .ok mode => uriLength kind rest mode (count + 1)

/-- Reads an address of the given characters. -/
def Cursor.skipUri (cursor : Cursor) (kind : Char → Bool) : Except Fault Cursor := do
  let count ← uriLength kind cursor.rest .text 0
  .ok (cursor.skip count)

/-- The exclamation mark and the name at the front of a text, with the exclamation mark that may
close the name. It is empty if the text starts otherwise. -/
def handleAt : List Char → List Char
  | '!' :: rest =>
    let name := rest.takeWhile isNameChar
    '!' :: name ++ (rest.drop name.length).takeWhile (· = '!') |>.take (name.length + 2)
  | _ => []

/-- Whether a handle names a tag directive: it starts and ends with an exclamation mark. -/
def isNamedHandle (handle : List Char) : Bool :=
  decide (2 ≤ handle.length) && handle.getLast? = some '!'

/-- Reads a tag: an address in angle brackets, a handle and a name, or a name alone. The handle is
empty unless the tag has one of its own. -/
def Cursor.tag (cursor : Cursor) (flow : Bool) : Except Fault (String × Cursor) := do
  let (handle, behind) ←
    if startsWith (· = '<') cursor.rest.tail then do
      let behind ← (cursor.skip 2).skipUri isUriChar
      if !startsWith (· = '>') behind.rest then .error .badTag
      pure ("", behind.skip 1)
    else do
      let handle := handleAt cursor.rest
      let named := isNamedHandle handle
      let start := cursor.skip handle.length
      let behind ← start.skipUri isTagChar
      if named && behind.mark.index = start.mark.index then .error .badTag
      pure (if named then String.ofList handle else "", behind)
  if atBlankOrEnd behind.rest || (flow && startsWith isFlow behind.rest) then .ok (handle, behind)
  else .error .badTag

end TemplateHover.Yaml
