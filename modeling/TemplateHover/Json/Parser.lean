import TemplateHover.Json.Number
import TemplateHover.Text.Hex

namespace TemplateHover.Json

/-- Whether a character may stand between the tokens of a JSON text. -/
def isSpace (c : Char) : Bool :=
  c = ' ' || c = '\t' || c = '\n' || c = '\r'

/-- The code unit written with four hexadecimal digits. -/
def codeUnit? (a b c d : Char) : Option Nat :=
  match hexDigit? a, hexDigit? b, hexDigit? c, hexDigit? d with
  | some a, some b, some c, some d => some (((a * 16 + b) * 16 + c) * 16 + d)
  | _, _, _, _ => none

/-- The character of an escape with one letter. -/
def escaped? : Char → Option Char
  | '"' => some '"'
  | '\\' => some '\\'
  | '/' => some '/'
  | 'b' => some '\x08'
  | 'f' => some '\x0c'
  | 'n' => some '\n'
  | 'r' => some '\r'
  | 't' => some '\t'
  | _ => none

/-- Reads a string up to its closing quote. The characters read so far are kept in reverse. A
surrogate has to be the first half of a pair. -/
def readString (known : List Char) : List Char → Option (String × List Char)
  | [] => none
  | '"' :: rest => some (String.ofList known.reverse, rest)
  | '\\' :: 'u' :: a :: b :: c :: d :: rest =>
    match codeUnit? a b c d with
    | none => none
    | some high =>
      if 0xd800 ≤ high ∧ high < 0xdc00 then
        match rest with
        | '\\' :: 'u' :: e :: f :: g :: h :: more =>
          match codeUnit? e f g h with
          | none => none
          | some low =>
            if 0xdc00 ≤ low ∧ low < 0xe000 then
              readString
                (Char.ofNat (0x10000 + (high - 0xd800) * 0x400 + (low - 0xdc00)) :: known) more
            else none
        | _ => none
      else if 0xdc00 ≤ high ∧ high < 0xe000 then none
      else readString (Char.ofNat high :: known) rest
  | '\\' :: letter :: rest =>
    match escaped? letter with
    | none => none
    | some c => readString (c :: known) rest
  | c :: rest => if c.toNat < 0x20 then none else readString (c :: known) rest

/-- The decimal digits at the front of a text, and the rest. -/
def readDigits (text : List Char) : List Nat × List Char :=
  ((text.takeWhile Char.isDigit).map fun c => c.toNat - '0'.toNat, text.dropWhile Char.isDigit)

/-- Reads the fraction of a number, which needs a digit. -/
def readFraction : List Char → Option (Option (List Nat) × List Char)
  | '.' :: rest =>
    match readDigits rest with
    | ([], _) => none
    | (digits, more) => some (some digits, more)
  | rest => some (none, rest)

/-- Reads the exponent of a number, which needs a digit. -/
def readExponent : List Char → Option (Option (Bool × List Nat) × List Char)
  | [] => some (none, [])
  | c :: rest =>
    if c = 'e' ∨ c = 'E' then
      let (positive, more) :=
        match rest with
        | '+' :: more => (true, more)
        | '-' :: more => (false, more)
        | more => (true, more)
      match readDigits more with
      | ([], _) => none
      | (digits, after) => some (some (positive, digits), after)
    else some (none, c :: rest)

/-- Reads a number. A zero in front ends the whole part. -/
def readNumber (text : List Char) : Option (Number × List Char) := do
  let (negative, rest) :=
    match text with
    | '-' :: rest => (true, rest)
    | rest => (false, rest)
  let (whole, rest) := readDigits rest
  match whole with
  | [] => none
  | 0 :: _ :: _ => none
  | _ =>
    let (fraction, rest) ← readFraction rest
    let (exponent, rest) ← readExponent rest
    let value ← Numeral.value? ⟨negative, whole, fraction, exponent⟩
    some (value, rest)

mutual

/-- Reads a value behind any space. Every level of a value and every item takes one step. -/
def readValue : (steps : Nat) → List Char → Option (Json × List Char)
  | 0, _ => none
  | steps + 1, text =>
    match text.dropWhile isSpace with
    | 'n' :: 'u' :: 'l' :: 'l' :: rest => some (.null, rest)
    | 't' :: 'r' :: 'u' :: 'e' :: rest => some (.bool true, rest)
    | 'f' :: 'a' :: 'l' :: 's' :: 'e' :: rest => some (.bool false, rest)
    | '"' :: rest => (readString [] rest).map fun (text, rest) => (.string text, rest)
    | '[' :: rest =>
      match rest.dropWhile isSpace with
      | ']' :: rest => some (.array [], rest)
      | rest => (readItems steps rest).map fun (items, rest) => (.array items, rest)
    | '\x7b' :: rest =>
      match rest.dropWhile isSpace with
      | '\x7d' :: rest => some (.object [], rest)
      | rest => (readMembers steps rest).map fun (members, rest) => (ofMembers members, rest)
    | rest => (readNumber rest).map fun (value, rest) => (.number value, rest)

/-- Reads the items of an array up to its end. -/
def readItems : (steps : Nat) → List Char → Option (List Json × List Char)
  | 0, _ => none
  | steps + 1, text =>
    match readValue steps text with
    | none => none
    | some (item, rest) =>
      match rest.dropWhile isSpace with
      | ']' :: rest => some ([item], rest)
      | ',' :: rest => (readItems steps rest).map fun (items, rest) => (item :: items, rest)
      | _ => none

/-- Reads the members of an object up to its end. -/
def readMembers : (steps : Nat) → List Char → Option (List (String × Json) × List Char)
  | 0, _ => none
  | steps + 1, text =>
    match text.dropWhile isSpace with
    | '"' :: rest =>
      match readString [] rest with
      | none => none
      | some (name, rest) =>
        match rest.dropWhile isSpace with
        | ':' :: rest =>
          match readValue steps rest with
          | none => none
          | some (value, rest) =>
            match rest.dropWhile isSpace with
            | '\x7d' :: rest => some ([(name, value)], rest)
            | ',' :: rest =>
              (readMembers steps rest).map fun (members, rest) => ((name, value) :: members, rest)
            | _ => none
        | _ => none
    | _ => none

end

/-- The value of a JSON text. Every step reads a character, so the steps suffice. -/
def parse? (text : String) : Option Json :=
  match readValue (2 * text.length + 2) text.toList with
  | some (value, rest) => if rest.all isSpace then some value else none
  | none => none

end TemplateHover.Json
