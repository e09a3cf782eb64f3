namespace TemplateHover.Uri.Punycode

/-- The digit with a value below 36: the letters stand for the first values. -/
def digit (value : Nat) : Char :=
  if value < 26 then Char.ofNat ('a'.toNat + value) else Char.ofNat ('0'.toNat + value - 26)

/-- The weight limit of the digit at a place. -/
def threshold (bias place : Nat) : Nat :=
  max 1 (min 26 (place - bias))

/-- The digits of a number, where the limit of each place decides how the rest is divided. -/
def digits (bias place number : Nat) : List Char :=
  let limit := threshold bias place
  if number < limit then [digit number]
  else
    digit (limit + (number - limit) % (36 - limit)) ::
      digits bias (place + 36) ((number - limit) / (36 - limit))
termination_by number
decreasing_by
  have positive : 1 ≤ threshold bias place := Nat.le_max_left _ _
  have below := Nat.div_le_self (number - threshold bias place) (36 - threshold bias place)
  omega

/-- Divides a number down to the range that a bias is computed from, and counts the places. -/
def settle (number places : Nat) : Nat × Nat :=
  if 455 < number then settle (number / 35) (places + 36) else (number, places)
termination_by number

/-- The bias for the next number, from the last one and how many characters are written. -/
def nextBias (number written : Nat) (first : Bool) : Nat :=
  let scaled := if first then number / 700 else number / 2
  let (rest, places) := settle (scaled + scaled / written) 0
  places + 36 * rest / (rest + 38)

/-- Where the encoding stands: what is written, the distance since then, the bias and the number of
characters that are encoded. -/
structure State where
  output : List Char
  distance : Nat
  bias : Nat
  written : Nat

/-- Passes a character while those with one code point are inserted. -/
def State.pass (basic code : Nat) (state : State) (c : Char) : State :=
  if c.toNat < code then { state with distance := state.distance + 1 }
  else if c.toNat = code then
    { output := state.output ++ digits state.bias 36 state.distance
      distance := 0
      bias := nextBias state.distance (state.written + 1) (state.written = basic)
      written := state.written + 1 }
  else state

/-- Inserts all characters with the given code points, which grow. -/
def State.insertAll (label : List Char) (basic : Nat) : State → (reached : Nat) → List Nat → State
  | state, _, [] => state
  | state, reached, code :: codes =>
    let jumped := state.distance + (code - reached) * (state.written + 1)
    let passed := label.foldl (State.pass basic code) { state with distance := jumped }
    insertAll label basic { passed with distance := passed.distance + 1 } (code + 1) codes

/-- The ASCII form of a label: its ASCII characters, and behind them where the others go. -/
def encode (label : List Char) : List Char :=
  let basic := label.filter fun c => c.toNat < 0x80
  let codes := ((label.filter fun c => 0x80 ≤ c.toNat).map Char.toNat).mergeSort.eraseDups
  let start : State :=
    { output := if basic.isEmpty then [] else basic ++ ['-']
      distance := 0
      bias := 72
      written := basic.length }
  (start.insertAll label basic.length 0x80 codes).output

end TemplateHover.Uri.Punycode
