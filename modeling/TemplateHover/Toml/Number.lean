import TemplateHover.Toml.String

namespace TemplateHover.Toml

/-- The values of digits that low lines may separate one by one. -/
def digits? (digit? : Char → Option Nat) : List Char → Option (List Nat)
  | [] => none
  | [c] => (digit? c).map fun digit => [digit]
  | c :: '_' :: rest =>
    match digit? c, digits? digit? rest with
    | some digit, some more => some (digit :: more)
    | _, _ => none
  | c :: rest =>
    match digit? c, digits? digit? rest with
    | some digit, some more => some (digit :: more)
    | _, _ => none

/-- The number that digits write in a base. -/
def ofDigits (base : Nat) (digits : List Nat) : Nat :=
  digits.foldl (fun value digit => value * base + digit) 0

/-- The value of a digit below a base of at most sixteen. -/
def digitBelow? (base : Nat) (c : Char) : Option Nat :=
  (hexDigit? c).filter fun digit => digit < base

/-- The digits of a whole number in base ten, which has no zero in front. -/
def wholeDigits? (text : List Char) : Option (List Nat) :=
  match text with
  | '0' :: _ :: _ => none
  | _ => digits? (digitBelow? 10) text

/-- The sign of a number, and the rest. -/
def readSign : List Char → Bool × List Char
  | '-' :: rest => (true, rest)
  | '+' :: rest => (false, rest)
  | text => (false, text)

/-- A whole number if 64 bits hold it. -/
def inRange? (number : Int) : Option Value :=
  if -0x8000000000000000 ≤ number ∧ number < 0x8000000000000000 then some (.integer number) else none

/-- Reads a whole number. The bases other than ten take no sign. -/
def integer? : List Char → Option Value
  | '0' :: 'x' :: rest => (digits? (digitBelow? 16) rest).bind fun ds => inRange? (ofDigits 16 ds)
  | '0' :: 'o' :: rest => (digits? (digitBelow? 8) rest).bind fun ds => inRange? (ofDigits 8 ds)
  | '0' :: 'b' :: rest => (digits? (digitBelow? 2) rest).bind fun ds => inRange? (ofDigits 2 ds)
  | text =>
    let (negative, rest) := readSign text
    (wholeDigits? rest).bind fun ds =>
      inRange? (if negative then -(ofDigits 10 ds : Int) else ofDigits 10 ds)

/-- Whether the number `digits * 10 ^ exponent` lies above all floating point numbers. The length
of the digits decides for all but a few exponents. -/
def isTooLarge (digits : List Nat) (exponent : Int) : Bool :=
  let digits := digits.dropWhile (· = 0)
  let magnitude : Int := digits.length + exponent
  if digits.isEmpty || magnitude < 309 then false
  else if 309 < magnitude then true
  else
    let limit := Nat.pow 2 1024 - Nat.pow 2 970
    decide (limit * Nat.pow 10 (-exponent).toNat ≤ ofDigits 10 digits * Nat.pow 10 exponent.toNat)

/-- Reads an exponent behind its letter. -/
def exponent? (text : List Char) : Option Int :=
  let (negative, rest) := readSign text
  (digits? (digitBelow? 10) rest).map fun ds =>
    if negative then -(ofDigits 10 ds : Int) else ofDigits 10 ds

/-- Whether the character introduces an exponent. -/
def isExponentMark (c : Char) : Bool :=
  c = 'e' || c = 'E'

/-- Reads a floating point number. It has a fraction, an exponent or both, and if it is positive it
must not be too large. -/
def float? (text : List Char) : Option Value :=
  let (negative, rest) := readSign text
  if rest = ['i', 'n', 'f'] || rest = ['n', 'a', 'n'] then some .float
  else
    let mantissa := rest.takeWhile fun c => !isExponentMark c
    let whole := mantissa.takeWhile (· != '.')
    let exponentText := rest.drop mantissa.length
    let fractionText := mantissa.drop whole.length
    if exponentText.isEmpty && fractionText.isEmpty then none
    else do
      let wholeDigits ← wholeDigits? whole
      let fraction ←
        if fractionText.isEmpty then some [] else digits? (digitBelow? 10) fractionText.tail
      let exponent ← if exponentText.isEmpty then some 0 else exponent? exponentText.tail
      let tooLarge := isTooLarge (wholeDigits ++ fraction) (exponent - fraction.length)
      if !negative && tooLarge then none else some .float

end TemplateHover.Toml
