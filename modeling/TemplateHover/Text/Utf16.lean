namespace TemplateHover

/-- The UTF-16 code units of a character. One outside the basic plane takes a surrogate pair. -/
def codeUnits (c : Char) : List UInt16 :=
  if c.toNat < 0x10000 then
    [UInt16.ofNat c.toNat]
  else
    let offset := c.toNat - 0x10000
    [UInt16.ofNat (0xd800 + offset / 0x400), UInt16.ofNat (0xdc00 + offset % 0x400)]

/-- A text in UTF-16. -/
def utf16 (text : List Char) : List UInt16 :=
  text.flatMap codeUnits

/-- How many UTF-16 code units a character takes. -/
def unitCount (c : Char) : Nat :=
  if c.toNat < 0x10000 then 1 else 2

/-- The width in code units of the first `k` characters of a line. Characters past the end of the
line have no width. -/
def widthUpTo (line : List Char) (k : Nat) : Nat :=
  (line.take k).foldr (fun c width => unitCount c + width) 0

/-- The column at which the character with index `k` starts, or the column after the last
character when `k` is the length of the line. Columns count code units in 32 bits, so a boundary
further right has none. -/
def column? (line : List Char) (k : Nat) : Option UInt32 :=
  if k ≤ line.length then
    let column := (utf16 (line.take k)).length
    if h : column < UInt32.size then some (UInt32.ofNatLT column h) else none
  else
    none

/-- The sum of two columns, or the last column when the sum lies behind it. -/
def saturatingAdd (a b : UInt32) : UInt32 :=
  if a.toNat + b.toNat < UInt32.size then a + b else UInt32.ofNat (UInt32.size - 1)

/-- The first character boundary at or after a column, where the characters left start at the
boundary `index` and the column `units`. -/
def boundaryFrom? (column : UInt32) : List Char → (index : Nat) → (units : UInt32) → Option Nat
  | [], index, units => if column ≤ units then some index else none
  | c :: rest, index, units =>
    if column ≤ units then some index
    else boundaryFrom? column rest (index + 1) (saturatingAdd units (UInt32.ofNat (unitCount c)))

/-- The index of the first character boundary of a line at or after a column. A column inside a
surrogate pair belongs to the boundary after it; a column past the end of the line has none. -/
def boundary? (line : List Char) (column : UInt32) : Option Nat :=
  boundaryFrom? column line 0 0

end TemplateHover
