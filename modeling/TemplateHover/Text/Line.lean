namespace TemplateHover

/-- The lines of a text. A line ends with a line feed, and a carriage return directly before that
line feed belongs to the end. A last line without a line feed is kept as it is, and the text after
a final line feed is no line. -/
def lines : List Char → List (List Char)
  | [] => []
  | '\n' :: rest => [] :: lines rest
  | '\r' :: '\n' :: rest => [] :: lines rest
  | c :: rest =>
    match lines rest with
    | [] => [[c]]
    | line :: more => (c :: line) :: more

end TemplateHover
