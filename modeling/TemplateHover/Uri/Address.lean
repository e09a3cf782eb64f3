import TemplateHover.Text.Hex

namespace TemplateHover.Uri

/-- Divides a text at every place where a character satisfies a test. There is always a first
piece. -/
def splitAll (test : Char → Bool) : List Char → List (List Char)
  | [] => [[]]
  | c :: rest =>
    if test c then [] :: splitAll test rest
    else
      match splitAll test rest with
      | piece :: pieces => (c :: piece) :: pieces
      | [] => [[c]]

/-- The number that digits of a base write. -/
def numberIn? (base : Nat) (digits : List Char) : Option Nat :=
  digits.foldl
    (fun value? c => value?.bind fun value =>
      ((hexDigit? c).filter (· < base)).map fun digit => value * base + digit)
    (some 0)

/-- A part of an address of 32 bits. A leading zero chooses base eight and `0x` base sixteen. -/
def addressPart? : List Char → Option Nat
  | [] => none
  | '0' :: 'x' :: digits | '0' :: 'X' :: digits => numberIn? 16 digits
  | '0' :: c :: digits => numberIn? 8 (c :: digits)
  | digits => numberIn? 10 digits

/-- The parts of a name between its points, without an empty last one. -/
def nameParts (name : List Char) : List (List Char) :=
  let parts := splitAll (· = '.') name
  if parts.length > 1 ∧ parts.getLast? = some [] then parts.dropLast else parts

/-- Whether a name has to be an address because its last part is a number. -/
def endsInNumber (name : List Char) : Bool :=
  match (nameParts name).getLast? with
  | none | some [] => false
  | some part => part.all Char.isDigit || (addressPart? part).isSome

/-- The address of 32 bits that a name writes in up to four parts. The last part fills the bytes
that are left. -/
def address4? (name : List Char) : Option Nat := do
  let parts ← (nameParts name).mapM addressPart?
  let last ← parts.getLast?
  let front := parts.dropLast
  if 3 < front.length ∨ Nat.pow 256 (4 - front.length) ≤ last ∨ front.any (255 < ·) then none
  else
    let high := front.foldl (fun value byte => value * 256 + byte) 0
    some (high * Nat.pow 256 (4 - front.length) + last)

/-- The text of an address of 32 bits. -/
def writeAddress4 (address : Nat) : List Char :=
  let byte (place : Nat) := Nat.toDigits 10 (address / Nat.pow 256 place % 256)
  byte 3 ++ '.' :: byte 2 ++ '.' :: byte 1 ++ '.' :: byte 0

/-- A byte in decimal digits without a zero in front. -/
def plainByte? (digits : List Char) : Option Nat :=
  match digits with
  | [] => none
  | '0' :: _ :: _ => none
  | _ => (numberIn? 10 digits).filter (· < 256)

/-- A group of up to four hexadecimal digits. -/
def group? (digits : List Char) : Option Nat :=
  if digits.isEmpty ∨ 4 < digits.length then none else numberIn? 16 digits

/-- The groups between colons. At the end four bytes may stand for two groups. -/
def groups? (bytesAllowed : Bool) : List (List Char) → Option (List Nat)
  | [] => some []
  | [last] =>
    if bytesAllowed && last.contains '.' then
      match (splitAll (· = '.') last).mapM plainByte? with
      | some [a, b, c, d] => some [a * 256 + b, c * 256 + d]
      | _ => none
    else (group? last).map fun group => [group]
  | first :: rest => do
    let group ← group? first
    some (group :: (← groups? bytesAllowed rest))

/-- The groups of one side of a gap. -/
def side? (bytesAllowed : Bool) (text : List Char) : Option (List Nat) :=
  if text.isEmpty then some [] else groups? bytesAllowed (splitAll (· = ':') text)

/-- Divides a text at its first pair of colons. -/
def splitGap : List Char → Option (List Char × List Char)
  | [] => none
  | ':' :: ':' :: rest => some ([], rest)
  | c :: rest => (splitGap rest).map fun (before, behind) => (c :: before, behind)

/-- The eight groups of an address of 128 bits. A pair of colons stands for one or more groups of
zero. -/
def address6? (text : List Char) : Option (List Nat) :=
  match splitGap text with
  | none => (side? true text).filter fun groups => groups.length = 8
  | some (before, behind) => do
    let front ← side? false before
    let back ← side? true behind
    if front.length + back.length ≤ 7 then
      some (front ++ List.replicate (8 - front.length - back.length) 0 ++ back)
    else none

/-- The length of the first run of zeros. -/
def zeroRun (groups : List Nat) : Nat :=
  (groups.takeWhile (· = 0)).length

/-- The length of the longest run of zeros. -/
def longestZeroRun : List Nat → Nat
  | [] => 0
  | group :: groups => max (zeroRun (group :: groups)) (longestZeroRun groups)

/-- Groups with colons between them. -/
def writeGroups (groups : List Nat) : List Char :=
  [':'].intercalate (groups.map (Nat.toDigits 16))

/-- Divides groups at the first run of zeros with at least the given length. -/
def splitZeros (length : Nat) : List Nat → Option (List Nat × List Nat)
  | [] => none
  | group :: groups =>
    if length ≤ zeroRun (group :: groups) then some ([], (group :: groups).drop length)
    else (splitZeros length groups).map fun (before, behind) => (group :: before, behind)

/-- The text of an address of 128 bits. The longest run of two or more zeros becomes a gap. -/
def writeAddress6 (groups : List Nat) : List Char :=
  let length := longestZeroRun groups
  match if 2 ≤ length then splitZeros length groups else none with
  | some (before, behind) => writeGroups before ++ ':' :: ':' :: writeGroups behind
  | none => writeGroups groups

end TemplateHover.Uri
