import TemplateHover.Toml.Literal

namespace TemplateHover.Toml

/-- Reads the statement that starts here. Both brackets of a repeated header stand together. -/
def readStatement : Reader Statement
  | '[' :: '[' :: rest =>
    match readKey rest with
    | some (key, ']' :: ']' :: rest) => some (.element key, rest)
    | _ => none
  | '[' :: rest =>
    match readKey rest with
    | some (key, ']' :: rest) => some (.header key, rest)
    | _ => none
  | text => (readPair readValue text).map fun ((key, value), rest) => (.pair key value, rest)

/-- Reads all statements, each on its own line, at most as many as the bound. -/
def readStatements : (bound : Nat) → List Char → Option (List Statement)
  | 0, _ => none
  | bound + 1, text =>
    match skipSpace false text with
    | [] => some []
    | text =>
      match readStatement text with
      | none => none
      | some (statement, rest) =>
        match skipLineEnd? rest with
        | none => none
        | some rest =>
          (readStatements bound rest).map fun statements => statement :: statements

/-- Drops the mark of the byte order at the front of a text. -/
def skipMark : List Char → List Char
  | '\uFEFF' :: rest => rest
  | text => text

/-- The table that a TOML document writes. Each statement takes at least one character, so the
bound on their number is never met. -/
def parse? (text : String) : Option Value :=
  let text := skipMark text.toList
  (readStatements (text.length + 1) text).bind ofStatements?

end TemplateHover.Toml
