import TemplateHover.Document
import TemplateHover.Uri.Parser

namespace TemplateHover

/-- The open documents in the order of their URIs. -/
abbrev Documents := List (Uri × Document)

namespace Documents

/-- The document with the given URI. -/
def get? (documents : Documents) (uri : Uri) : Option Document :=
  documents.lookup uri

/-- Stores a document under its URI in place of an earlier one. -/
def insert (uri : Uri) (document : Document) : Documents → Documents
  | [] => [(uri, document)]
  | (other, old) :: rest =>
    if uri = other then (uri, document) :: rest
    else if uri.text < other.text then (uri, document) :: (other, old) :: rest
    else (other, old) :: insert uri document rest

/-- Removes the document with the given URI. -/
def erase (uri : Uri) (documents : Documents) : Documents :=
  documents.filter fun entry => entry.1 ≠ uri

end Documents

end TemplateHover
