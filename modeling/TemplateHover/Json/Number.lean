import TemplateHover.Decimal.Shortest
import TemplateHover.Json.Basic

namespace TemplateHover.Json

/-- The parts of a number as it is written. A missing exponent is zero digits. -/
structure Numeral where
  negative : Bool
  whole : List Nat
  fraction : Option (List Nat)
  exponent : Option (Bool × List Nat)

namespace Numeral

/-- Reads digits into a significand of 64 bits until the next one would not fit. -/
def absorb (significand : Nat) : List Nat → Nat × List Nat
  | [] => (significand, [])
  | digit :: rest =>
    if significand * 10 + digit < Nat.pow 2 64 then absorb (significand * 10 + digit) rest
    else (significand, digit :: rest)

/-- Divides by powers of ten that a floating point number can hold, from the largest on. -/
def divideByPower (value : Float) (power : Nat) : Float :=
  if power ≤ 308 then value / Float.ofScientific 1 false power
  else if value == 0 then value
  else divideByPower (value / Float.ofScientific 1 false 308) (power - 308)
termination_by power

/-- The number `significand * 10 ^ exponent`, rounded once for the significand and once for the
product. A product above all floating point numbers is none. -/
def scale? (significand : Nat) (exponent : Int) : Option Float :=
  let value := Float.ofNat significand
  if exponent < 0 then
    some (divideByPower value exponent.natAbs)
  else if 308 < exponent then
    if significand = 0 then some value else none
  else
    let product := value * Float.ofScientific 1 false exponent.toNat
    if product.isInf then none else some product

/-- The value of an exponent. Its digits have to fit in 31 bits. -/
def exponentValue? (digits : List Nat) : Option Nat :=
  digits.foldl
    (fun value? digit =>
      value?.bind fun value =>
        if value * 10 + digit < Nat.pow 2 31 then some (value * 10 + digit) else none)
    (some 0)

/-- Applies a written exponent to a significand that already has one. -/
def applyExponent? (significand : Nat) (shift : Int) : Option (Bool × List Nat) → Option Float
  | none => scale? significand shift
  | some (positive, digits) =>
    match exponentValue? digits with
    | some exponent =>
      scale? significand (if positive then shift + exponent else shift - exponent)
    | none => if significand ≠ 0 ∧ positive then none else some 0

/-- The size of a number with a fraction, an exponent or too many digits. Digits of the whole part
that do not fit count as a shift, digits of the fraction that do not fit are dropped. -/
def floatSize? (numeral : Numeral) : Option Float :=
  let (significand, dropped) := absorb 0 numeral.whole
  let fraction := numeral.fraction.getD []
  let (refined, unused) := absorb significand fraction
  let shift : Int := (dropped.length : Int) - (fraction.length - unused.length : Int)
  applyExponent? refined shift numeral.exponent

/-- The value of a written number. A whole number is exact if 64 bits hold it, and the negative
zero is a floating point number. -/
def value? (numeral : Numeral) : Option Number :=
  let float? := numeral.floatSize?.map fun size => .float (if numeral.negative then -size else size)
  match numeral.fraction, numeral.exponent, absorb 0 numeral.whole with
  | none, none, (whole, []) =>
    if !numeral.negative then some (.integer whole)
    else if 0 < whole ∧ whole ≤ Nat.pow 2 63 then some (.integer (-(whole : Int)))
    else float?
  | _, _, _ => float?

end Numeral

/-- The significand and the exponent of a floating point number other than zero, an infinity and
not a number, from its bits. -/
def Number.binary (bits : Nat) : Nat × Int :=
  let exponent : Nat := bits / Nat.pow 2 52 % Nat.pow 2 11
  let fraction : Nat := bits % Nat.pow 2 52
  if exponent = 0 then (fraction, -1074)
  else (fraction + Nat.pow 2 52, (exponent : Int) - 1075)

/-- Lays out a decimal: positionally with a point between `0.00001` and `10 ^ 16`, and with an
exponent elsewhere. -/
def Number.layout (decimal : Decimal) : List Char :=
  let digits := Nat.toDigits 10 decimal.digits
  let point : Int := digits.length + decimal.exponent
  if 0 ≤ decimal.exponent ∧ point ≤ 16 then
    digits ++ List.replicate decimal.exponent.toNat '0' ++ ['.', '0']
  else if 0 < point ∧ point ≤ 16 then
    digits.take point.toNat ++ '.' :: digits.drop point.toNat
  else if -5 < point ∧ point ≤ 0 then
    '0' :: '.' :: List.replicate (-point).toNat '0' ++ digits
  else
    let exponent := point - 1
    let sign := if exponent < 0 then ['-'] else []
    let mantissa :=
      match digits with
      | [digit] => [digit]
      | first :: more => first :: '.' :: more
      | [] => []
    mantissa ++ 'e' :: sign ++ Nat.toDigits 10 exponent.natAbs

/-- The text of a finite floating point number: the fewest digits that read back. -/
def Number.floatText (value : Float) : String :=
  let bits := value.toBits.toNat
  let size := bits % Nat.pow 2 63
  let sign := if Nat.pow 2 63 ≤ bits then ['-'] else []
  let text :=
    if size = 0 then ['0', '.', '0']
    else
      let (significand, exponent) := Number.binary size
      Number.layout (Decimal.shortest significand exponent)
  String.ofList (sign ++ text)

/-- The decimal text of a whole number. -/
def Number.intText (value : Int) : String :=
  let sign := if value < 0 then ['-'] else []
  String.ofList (sign ++ Nat.toDigits 10 value.natAbs)

end TemplateHover.Json
