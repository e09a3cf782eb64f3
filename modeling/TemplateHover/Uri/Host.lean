import TemplateHover.Uri.Address
import TemplateHover.Uri.Percent
import TemplateHover.Uri.Punycode

namespace TemplateHover.Uri

/-- The lower case of a letter outside of ASCII, in the Latin, Greek and Cyrillic alphabets. -/
def lowerLetter (c : Char) : Char :=
  let code := c.toNat
  let within (low high : Nat) : Bool := low ≤ code && code ≤ high
  if (within 0xc0 0xde && code != 0xd7) || (within 0x391 0x3a9 && code != 0x3a2) ||
      within 0x410 0x42f then Char.ofNat (code + 0x20)
  else if within 0x400 0x40f then Char.ofNat (code + 0x50)
  else if code = 0x178 then Char.ofNat 0xff
  else if (within 0x100 0x137 && code != 0x130) || within 0x14a 0x177 then
    Char.ofNat (code + (code + 1) % 2)
  else if within 0x139 0x148 || within 0x179 0x17e then Char.ofNat (code + code % 2)
  else c

/-- What a character of a name stands for: nothing, a point, or a letter in lower case. -/
def nameChar (c : Char) : List Char :=
  let code := c.toNat
  if code < 0x80 then [c.toLower]
  else if code = 0xad || code = 0x200b || code = 0x2060 || code = 0xfeff ||
      (0xfe00 ≤ code && code ≤ 0xfe0f) then []
  else if code = 0x3002 || code = 0xff0e || code = 0xff61 then ['.']
  else if 0xff01 ≤ code && code ≤ 0xff5e then [(Char.ofNat (code - 0xfee0)).toLower]
  else [lowerLetter c]

/-- Whether the character is refused in every host. -/
def isRefused (c : Char) : Bool :=
  ['\x00', '\t', '\n', '\r', ' ', '#', '/', ':', '<', '>', '?', '@', '[', '\\', ']', '^',
    '|'].contains c

/-- Whether the character is refused in a name of the domain name system. -/
def isRefusedInName (c : Char) : Bool :=
  isRefused c || c.toNat < 0x20 || c = '%' || c.toNat = 0x7f

/-- A label of a name in ASCII. -/
def asciiLabel (label : List Char) : List Char :=
  if label.all fun c => c.toNat < 0x80 then label
  else ['x', 'n', '-', '-'] ++ Punycode.encode label

/-- The ASCII form of a name of the domain name system. -/
def asciiName? (text : List Char) : Option (List Char) := do
  let name ← String.fromUTF8? ⟨(unescape text).toArray⟩
  let labels := splitAll (· = '.') (name.toList.flatMap nameChar)
  let ascii := ['.'].intercalate (labels.map asciiLabel)
  if ascii.isEmpty || ascii.any isRefusedInName then none else some ascii

/-- An address in square brackets. -/
def bracketed? (text : List Char) : Option (List Char) :=
  if text.getLast? = some ']' then
    (address6? text.dropLast).map fun groups => '[' :: writeAddress6 groups ++ [']']
  else none

/-- The normal form of the host of a scheme with a fixed form: an address or a name. -/
def fixedHost? : List Char → Option (List Char)
  | '[' :: rest => bracketed? rest
  | text => do
    let name ← asciiName? text
    if endsInNumber name then (address4? name).map writeAddress4 else some name

/-- The normal form of the host of any other scheme, which may be empty. -/
def freeHost? : List Char → Option (List Char)
  | '[' :: rest => bracketed? rest
  | text => if text.any isRefused then none else some (escape isUnprintable text)

end TemplateHover.Uri
