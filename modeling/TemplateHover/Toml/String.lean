import TemplateHover.Text.Hex
import TemplateHover.Toml.Space
import TemplateHover.Toml.Value

namespace TemplateHover.Toml

/-- The number that hexadecimal digits write. -/
def hexValue? (digits : List Char) : Option Nat :=
  digits.foldl
    (fun value? c => value?.bind fun value => (hexDigit? c).map fun digit => value * 16 + digit)
    (some 0)

/-- The character whose code point hexadecimal digits write. -/
def charOfHex? (digits : List Char) : Option Char :=
  (hexValue? digits).bind fun code =>
    if code.isValidChar then some (Char.ofNat code) else none

/-- The character that a letter behind a backslash stands for. -/
def escaped? : Char → Option Char
  | 'b' => some '\x08'
  | 't' => some '\t'
  | 'n' => some '\n'
  | 'f' => some '\x0c'
  | 'r' => some '\r'
  | '"' => some '"'
  | '\\' => some '\\'
  | _ => none

/-- Reads a string on one line behind its quote. The characters read so far are kept in reverse. -/
def basicString (known : List Char) : Reader String
  | [] => none
  | '"' :: rest => some (String.ofList known.reverse, rest)
  | '\\' :: 'u' :: a :: b :: c :: d :: rest =>
    match charOfHex? [a, b, c, d] with
    | none => none
    | some meaning => basicString (meaning :: known) rest
  | '\\' :: 'U' :: a :: b :: c :: d :: e :: f :: g :: h :: rest =>
    match charOfHex? [a, b, c, d, e, f, g, h] with
    | none => none
    | some meaning => basicString (meaning :: known) rest
  | '\\' :: letter :: rest =>
    match escaped? letter with
    | none => none
    | some meaning => basicString (meaning :: known) rest
  | c :: rest => if isControl c || c = '\\' then none else basicString (c :: known) rest

/-- Reads a string without escapes on one line behind its quote. -/
def literalString (known : List Char) : Reader String
  | [] => none
  | '\'' :: rest => some (String.ofList known.reverse, rest)
  | c :: rest => if isControl c then none else literalString (c :: known) rest

/-- The value of a string of several lines at its closing quotes. Up to two quotes before the three
that close it belong to the value. -/
def closeString (quote : Char) (known text : List Char) : String × List Char :=
  let count := min (text.takeWhile (· = quote)).length 5
  (String.ofList (known.reverse ++ List.replicate (count - 3) quote), text.drop count)

/-- Whether three quotes follow. -/
def atClosing (quote : Char) (text : List Char) : Bool :=
  [quote, quote, quote].isPrefixOf text

/-- Reads a string of several lines behind its first line break. A backslash at the end of a line
makes the reader skip everything up to the next visible character. -/
def basicLines : (skipping : Bool) → (known : List Char) → Reader String
  | _, _, [] => none
  | skipping, known, '\n' :: rest =>
    basicLines skipping (if skipping then known else '\n' :: known) rest
  | skipping, known, '\r' :: '\n' :: rest =>
    basicLines skipping (if skipping then known else '\n' :: known) rest
  | _, known, '\\' :: 'u' :: a :: b :: c :: d :: rest =>
    match charOfHex? [a, b, c, d] with
    | none => none
    | some meaning => basicLines false (meaning :: known) rest
  | _, known, '\\' :: 'U' :: a :: b :: c :: d :: e :: f :: g :: h :: rest =>
    match charOfHex? [a, b, c, d, e, f, g, h] with
    | none => none
    | some meaning => basicLines false (meaning :: known) rest
  | skipping, known, c :: rest =>
    if skipping && isBlank c then basicLines true known rest
    else if c = '"' then
      if atClosing '"' (c :: rest) then some (closeString '"' known (c :: rest))
      else basicLines false (c :: known) rest
    else if c = '\\' then
      if (skipBreak? (skipBlanks rest)).isSome then basicLines true known rest
      else
        match rest with
        | [] => none
        | letter :: more =>
          match escaped? letter with
          | none => none
          | some meaning => basicLines false (meaning :: known) more
    else if isControl c then none
    else basicLines false (c :: known) rest

/-- Reads a string of several lines without escapes behind its first line break. -/
def literalLines : (known : List Char) → Reader String
  | _, [] => none
  | known, '\n' :: rest => literalLines ('\n' :: known) rest
  | known, '\r' :: '\n' :: rest => literalLines ('\n' :: known) rest
  | known, c :: rest =>
    if c = '\'' && atClosing '\'' (c :: rest) then some (closeString '\'' known (c :: rest))
    else if isControl c then none
    else literalLines (c :: known) rest

/-- Reads a string of any kind at its first quote. A line break directly behind the quotes of a
string of several lines does not belong to it. -/
def readString : Reader String
  | '"' :: '"' :: '"' :: rest => basicLines false [] ((skipBreak? rest).getD rest)
  | '"' :: rest => basicString [] rest
  | '\'' :: '\'' :: '\'' :: rest => literalLines [] ((skipBreak? rest).getD rest)
  | '\'' :: rest => literalString [] rest
  | _ => none

end TemplateHover.Toml
