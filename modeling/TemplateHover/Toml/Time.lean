import TemplateHover.Toml.Number

namespace TemplateHover.Toml

/-- The number of two digits. -/
def twoDigits? (a b : Char) : Option Nat :=
  match digitBelow? 10 a, digitBelow? 10 b with
  | some a, some b => some (a * 10 + b)
  | _, _ => none

/-- Whether two digits write a number between two bounds, both included. -/
def twoDigitsWithin (low high : Nat) (a b : Char) : Bool :=
  (twoDigits? a b).any fun number => low ≤ number && number ≤ high

/-- How many days a month has. -/
def daysIn (year month : Nat) : Nat :=
  if month = 2 then
    if year % 4 = 0 && (year % 100 != 0 || year % 400 = 0) then 29 else 28
  else if [4, 6, 9, 11].contains month then 30
  else 31

/-- Drops a date from the front of a text. -/
def skipDate? : List Char → Option (List Char)
  | a :: b :: c :: d :: '-' :: e :: f :: '-' :: g :: h :: rest =>
    match twoDigits? a b, twoDigits? c d, twoDigits? e f with
    | some century, some year, some month =>
      if 1 ≤ month && month ≤ 12 &&
          twoDigitsWithin 1 (daysIn (century * 100 + year) month) g h then some rest
      else none
    | _, _, _ => none
  | _ => none

/-- Drops the fraction of a second, which needs a digit behind its point. -/
def skipFraction? : List Char → Option (List Char)
  | '.' :: c :: rest => if c.isDigit then some (rest.dropWhile Char.isDigit) else none
  | '.' :: [] => none
  | text => some text

/-- Drops a time of day from the front of a text. A minute may have a leap second. -/
def skipTimeOfDay? : List Char → Option (List Char)
  | a :: b :: ':' :: c :: d :: ':' :: e :: f :: rest =>
    if twoDigitsWithin 0 23 a b && twoDigitsWithin 0 59 c d && twoDigitsWithin 0 60 e f then
      skipFraction? rest
    else none
  | _ => none

/-- Whether a text is an offset from universal time, or empty. -/
def isOffset : List Char → Bool
  | [] => true
  | [c] => c = 'Z' || c = 'z'
  | [sign, a, b, ':', c, d] =>
    (sign = '+' || sign = '-') && twoDigitsWithin 0 23 a b && twoDigitsWithin 0 59 c d
  | _ => false

/-- Whether a text is a time of day with or without an offset. -/
def isOffsetTime (text : List Char) : Bool :=
  (skipTimeOfDay? text).any isOffset

/-- Whether a text without blanks is a date, a time of day or both. -/
def isTime (text : List Char) : Bool :=
  match skipDate? text with
  | some [] => true
  | some (c :: rest) => (c = 'T' || c = 't') && isOffsetTime rest
  | none => skipTimeOfDay? text = some []

end TemplateHover.Toml
