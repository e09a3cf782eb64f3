import TemplateHover.Text.Hex

namespace TemplateHover.Uri

/-- A hexadecimal digit in upper case. -/
def upperHexDigit (digit : Nat) : Char :=
  (Nat.digitChar digit).toUpper

/-- A byte as a percent sign and two hexadecimal digits. -/
def escapeByte (byte : UInt8) : List Char :=
  ['%', upperHexDigit (byte.toNat / 16), upperHexDigit (byte.toNat % 16)]

/-- A text in which the bytes of some characters are escaped. -/
def escape (mustEscape : Char → Bool) (text : List Char) : List Char :=
  text.flatMap fun c =>
    if mustEscape c then (String.utf8EncodeChar c).flatMap escapeByte else [c]

/-- The bytes of a text in which some bytes are escaped. A percent sign without two digits stands
for itself. -/
def unescape : List Char → List UInt8
  | [] => []
  | '%' :: a :: b :: rest =>
    match hexDigit? a, hexDigit? b with
    | some high, some low => UInt8.ofNat (high * 16 + low) :: unescape rest
    | _, _ => UInt8.ofNat '%'.toNat :: unescape (a :: b :: rest)
  | c :: rest => String.utf8EncodeChar c ++ unescape rest

/-- Whether the character is a control or lies outside of ASCII. These are escaped everywhere. -/
def isUnprintable (c : Char) : Bool :=
  c.toNat < 0x20 || 0x7e < c.toNat

/-- What is escaped in a fragment. -/
def inFragment (c : Char) : Bool :=
  isUnprintable c || [' ', '"', '<', '>', '\x60'].contains c

/-- What is escaped in a path with segments. -/
def inPath (c : Char) : Bool :=
  inFragment c || ['#', '?', '\x7b', '\x7d'].contains c

/-- What is escaped in the name and the password of a user. -/
def inCredentials (c : Char) : Bool :=
  inPath c || ['/', ':', ';', '=', '@', '[', '\\', ']', '^', '|'].contains c

/-- What is escaped in a query. Schemes with a fixed form also escape the apostrophe. -/
def inQuery (fixedForm : Bool) (c : Char) : Bool :=
  isUnprintable c || [' ', '"', '#', '<', '>'].contains c || (fixedForm && c = '\'')

end TemplateHover.Uri
