namespace TemplateHover

/-- The positive number `digits * 10 ^ exponent`. -/
structure Decimal where
  digits : Nat
  exponent : Int
deriving DecidableEq, Repr

namespace Decimal

/-- The positive numbers that round to one binary floating point number `value / unit`, where all
bounds are given in parts of `unit`. The ends belong to the interval when its significand is
even. -/
structure Interval where
  low : Nat
  value : Nat
  high : Nat
  unit : Nat
  closed : Bool

/-- The interval of the number `significand * 2 ^ exponent`. Below a power of two the neighbour is
only half as far away, unless that power is the least one with a full significand. -/
def Interval.ofBinary (significand : Nat) (exponent : Int) : Interval :=
  let scale := Nat.pow 2 (exponent - 2).toNat
  let below := if significand = Nat.pow 2 52 ∧ exponent ≠ -1074 then 1 else 2
  { low := (4 * significand - below) * scale
    value := 4 * significand * scale
    high := (4 * significand + 2) * scale
    unit := Nat.pow 2 (2 - exponent).toNat
    closed := significand % 2 = 0 }

/-- Whether a decimal lies in an interval. -/
def Interval.contains (interval : Interval) (decimal : Decimal) : Bool :=
  let number := decimal.digits * Nat.pow 10 decimal.exponent.toNat * interval.unit
  let shift := Nat.pow 10 (-decimal.exponent).toNat
  if interval.closed then
    interval.low * shift ≤ number && number ≤ interval.high * shift
  else
    interval.low * shift < number && number < interval.high * shift

/-- The exponent of the power of ten just above `value / unit`, for a number below one. The search
starts at the given number of leading zeros. -/
def leadingZeros (value unit : Nat) : (fuel zeros : Nat) → Nat
  | 0, zeros => zeros
  | fuel + 1, zeros =>
    if unit ≤ value * Nat.pow 10 (zeros + 1) then zeros
    else leadingZeros value unit fuel (zeros + 1)

/-- How many digits a number has before its point, or minus the zeros that follow the point. -/
def magnitude (value unit : Nat) : Int :=
  if unit ≤ value then (Nat.toDigits 10 (value / unit)).length
  else -(leadingZeros value unit 400 0 : Int)

/-- The neighbours below and above of the interval's number on the grid of decimals with the given
exponent. -/
def neighbours (interval : Interval) (exponent : Int) : Decimal × Decimal :=
  let digits :=
    interval.value * Nat.pow 10 (-exponent).toNat / (interval.unit * Nat.pow 10 exponent.toNat)
  (⟨digits, exponent⟩, ⟨digits + 1, exponent⟩)

/-- Whether of the two neighbours on a grid the upper one is nearer. A tie goes to even digits. -/
def upperIsNearer (interval : Interval) (lower : Decimal) : Bool :=
  let step := interval.unit * Nat.pow 10 lower.exponent.toNat
  let twice := 2 * (interval.value * Nat.pow 10 (-lower.exponent).toNat - lower.digits * step)
  step < twice || (step = twice && lower.digits % 2 = 1)

/-- The neighbour that lies in the interval, and the nearer one if both do. -/
def nearestIn? (interval : Interval) (exponent : Int) : Option Decimal :=
  let (lower, upper) := neighbours interval exponent
  match interval.contains lower, interval.contains upper with
  | true, true => some (if upperIsNearer interval lower then upper else lower)
  | true, false => some lower
  | false, true => some upper
  | false, false => none

/-- The coarsest decimal in the interval, tried with `count` digits, then one more, and so on. -/
def search (interval : Interval) (magnitude : Int) : (fuel count : Nat) → Decimal
  | 0, count => (neighbours interval (magnitude - count)).1
  | fuel + 1, count =>
    match nearestIn? interval (magnitude - count) with
    | some decimal => decimal
    | none => search interval magnitude fuel (count + 1)

/-- Moves trailing zeros from the digits to the exponent. -/
def trim : (fuel : Nat) → Decimal → Decimal
  | 0, decimal => decimal
  | fuel + 1, decimal =>
    if decimal.digits % 10 = 0 then trim fuel ⟨decimal.digits / 10, decimal.exponent + 1⟩
    else decimal

/-- The decimal with the fewest digits that reads back as `significand * 2 ^ exponent`, and of
those the nearest. Seventeen digits always suffice. -/
def shortest (significand : Nat) (exponent : Int) : Decimal :=
  let interval := Interval.ofBinary significand exponent
  trim 20 (search interval (magnitude interval.value interval.unit) 17 1)

end Decimal

end TemplateHover
