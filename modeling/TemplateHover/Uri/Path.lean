import TemplateHover.Uri.Percent

namespace TemplateHover.Uri

/-- Whether a text is a letter and a colon or a bar, as drives are named. -/
def isDrive : List Char → Bool
  | [letter, mark] => letter.isAlpha && (mark = ':' || mark = '|')
  | _ => false

/-- The normal form of a segment that names a drive. -/
def normalDrive : List Char → List Char
  | [letter, _] => [letter, ':']
  | segment => segment

/-- How a segment changes the path. -/
inductive Segment where
  | stay
  | up
  | down (name : List Char)

/-- The meaning of a segment. Points may be escaped. -/
def Segment.ofText (text : List Char) : Segment :=
  let points := text.map Char.toLower
  let point := ['%', '2', 'e']
  if points = ['.'] || points = point then .stay
  else if points = ['.', '.'] || points = '.' :: point || points = point ++ ['.'] ||
      points = point ++ point then .up
  else .down (escape inPath text)

/-- The path of some segments, last one first, without the segment above it. A drive is never
left. -/
def leave : List (List Char) → List (List Char)
  | [] => []
  | segment :: above => if isDrive segment then segment :: above else above

/-- The path behind some more segments, last one first. A path that ends in a change of place ends
with a slash. -/
def follow (drives : Bool) : (path : List (List Char)) → List (List Char) → List (List Char)
  | path, [] => path
  | path, text :: rest =>
    let next :=
      match Segment.ofText text with
      | .stay => if rest.isEmpty then [] :: path else path
      | .up => if rest.isEmpty then [] :: leave path else leave path
      | .down name =>
        if drives && path.isEmpty && isDrive name then [normalDrive name] else name :: path
    follow drives next rest

/-- The path that segments lead to, without points. -/
def resolvePath (drives : Bool) (segments : List (List Char)) : List (List Char) :=
  (follow drives [] segments).reverse

/-- The path of a file, which has no empty segment in front. -/
def filePath (path : List (List Char)) : List (List Char) :=
  match path.dropWhile List.isEmpty with
  | [] => [[]]
  | path => path

/-- A path with a slash before each segment. -/
def writePath (path : List (List Char)) : List Char :=
  path.flatMap fun segment => '/' :: segment

end TemplateHover.Uri
