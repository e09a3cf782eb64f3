namespace TemplateHover.Toml

/-- Whether the character is a space or a tab. -/
def isBlank (c : Char) : Bool :=
  c = ' ' || c = '\t'

/-- Drops blanks. -/
def skipBlanks (text : List Char) : List Char :=
  text.dropWhile isBlank

/-- Whether the character is a control other than the tab. No text may hold one as it is. -/
def isControl (c : Char) : Bool :=
  (c.toNat < 0x20 && c != '\t') || c.toNat = 0x7f

/-- Drops a line break, which is a line feed with or without a carriage return. -/
def skipBreak? : List Char → Option (List Char)
  | '\n' :: rest => some rest
  | '\r' :: '\n' :: rest => some rest
  | _ => none

/-- Drops a comment if one starts here. -/
def skipComment : List Char → List Char
  | '#' :: rest => rest.dropWhile fun c => !isControl c
  | text => text

/-- Drops the blanks and the comment before the end of a line, and that end. -/
def skipLineEnd? (text : List Char) : Option (List Char) :=
  match skipComment (skipBlanks text) with
  | [] => some []
  | rest => skipBreak? rest

/-- Drops blanks, line breaks and comments. -/
def skipSpace : (comment : Bool) → List Char → List Char
  | _, [] => []
  | _, '\n' :: rest => skipSpace false rest
  | _, '\r' :: '\n' :: rest => skipSpace false rest
  | true, c :: rest => if isControl c then c :: rest else skipSpace true rest
  | false, c :: rest =>
    if isBlank c then skipSpace false rest
    else if c = '#' then skipSpace true rest
    else c :: rest

end TemplateHover.Toml
