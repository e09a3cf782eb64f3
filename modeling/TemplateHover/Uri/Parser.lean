import TemplateHover.Uri.Host
import TemplateHover.Uri.Path

namespace TemplateHover

/-- An absolute URI in its normal form. Two URIs are the same if their texts are. -/
structure Uri where
  text : String
deriving DecidableEq, Repr

namespace Uri

/-- What the scheme says of the form of the rest. -/
inductive Form where
  /-- A host is required, and the number behind it has a default. -/
  | hosted (number : Nat)
  | file
  | free
deriving DecidableEq

/-- The form of a scheme. -/
def Form.ofScheme (scheme : List Char) : Form :=
  match String.ofList scheme with
  | "http" | "ws" => .hosted 80
  | "https" | "wss" => .hosted 443
  | "ftp" => .hosted 21
  | "file" => .file
  | _ => .free

/-- Whether the character may follow the first letter of a scheme. -/
def isSchemeChar (c : Char) : Bool :=
  c.isAlphanum || c = '+' || c = '-' || c = '.'

/-- The scheme in lower case and what follows its colon. -/
def splitScheme? (text : List Char) : Option (List Char × List Char) :=
  let scheme := text.takeWhile isSchemeChar
  match scheme, text.drop scheme.length with
  | first :: _, ':' :: rest =>
    if first.isAlpha then some (scheme.map Char.toLower, rest) else none
  | _, _ => none

/-- Divides a text at the first occurrence of a character. -/
def splitFirst (mark : Char) (text : List Char) : List Char × Option (List Char) :=
  match text.dropWhile (· != mark) with
  | [] => (text, none)
  | _ :: rest => (text.takeWhile (· != mark), some rest)

/-- Divides a text at the last occurrence of a character. -/
def splitLast (mark : Char) (text : List Char) : Option (List Char × List Char) :=
  match splitFirst mark text.reverse with
  | (_, none) => none
  | (behind, some before) => some (before.reverse, behind.reverse)

/-- The name and the password of a user in their normal form, with the sign that ends them. -/
def writeCredentials (text : List Char) : List Char :=
  let (user, password?) := splitFirst ':' text
  let password := password?.getD []
  if user.isEmpty && password.isEmpty then []
  else
    escape inCredentials user ++ (if password.isEmpty then [] else ':' :: escape inCredentials password)
      ++ ['@']

/-- The length of the host in front of its number. Colons in square brackets belong to the
host. -/
def hostLength : (bracketed : Bool) → List Char → Nat
  | _, [] => 0
  | bracketed, c :: rest =>
    if c = ':' && !bracketed then 0
    else hostLength (if c = '[' then true else if c = ']' then false else bracketed) rest + 1

/-- The number behind the host in its normal form. The default number is left out. -/
def writeNumber? (form : Form) : List Char → Option (List Char)
  | [] | [':'] => some []
  | ':' :: digits =>
    (numberIn? 10 digits).bind fun number =>
      if 65535 < number then none
      else if form = .hosted number then some []
      else some (':' :: Nat.toDigits 10 number)
  | _ => none

/-- The normal form of an authority with its slashes. A user or a number needs a host. -/
def writeAuthority? (form : Form) (text : List Char) : Option (List Char) := do
  let (credentials?, rest) :=
    match splitLast '@' text with
    | some (credentials, rest) => (some credentials, rest)
    | none => (none, text)
  let length := hostLength false rest
  let host ← if form = .free then freeHost? (rest.take length) else fixedHost? (rest.take length)
  let number ← writeNumber? form (rest.drop length)
  if host.isEmpty && (credentials?.isSome || length < rest.length) then none
  else some ('/' :: '/' :: writeCredentials (credentials?.getD []) ++ host ++ number)

/-- Whether the character divides segments. The bar that leans back does so in schemes with a fixed
form. -/
def isSlash (form : Form) (c : Char) : Bool :=
  c = '/' || (c = '\\' && form != .free)

/-- The path behind an authority. -/
def pathBehind (form : Form) : List Char → List (List Char)
  | [] => if form = .free then [] else [[]]
  | _ :: rest => resolvePath (form = .file) (splitAll (isSlash form) rest)

/-- The normal form of the authority and the path of a file. A path with a drive has no host. -/
def writeFile? (text : List Char) : Option (List Char) := do
  let slashes := (text.takeWhile (isSlash .file)).length
  let behind := text.drop (min slashes 2)
  let hostText := if slashes < 2 then [] else behind.takeWhile fun c => !isSlash .file c
  let hostText := if isDrive hostText then [] else hostText
  let host ← if hostText.isEmpty then some [] else fixedHost? hostText
  let host := if host = ['l', 'o', 'c', 'a', 'l', 'h', 'o', 's', 't'] then [] else host
  let pathText := behind.drop hostText.length
  let pathText :=
    match pathText with
    | c :: rest => if 2 ≤ slashes && isSlash .file c then rest else pathText
    | [] => []
  let path := resolvePath true (splitAll (isSlash .file) pathText)
  let host := if path.head?.any isDrive then [] else host
  some ('/' :: '/' :: host ++ writePath (filePath path))

/-- The normal form of what stands between the scheme and the query. A path without an authority
must not look like one. -/
def writeHierarchy? (form : Form) (text : List Char) : Option (List Char) :=
  match form, text with
  | .file, _ => writeFile? text
  | .hosted _, _ =>
    let behind := text.dropWhile (isSlash form)
    let authority := behind.takeWhile fun c => !isSlash form c
    (writeAuthority? form authority).map fun written =>
      written ++ writePath (pathBehind form (behind.drop authority.length))
  | .free, '/' :: '/' :: rest =>
    let authority := rest.takeWhile (· != '/')
    (writeAuthority? form authority).map fun written =>
      written ++ writePath (pathBehind form (rest.drop authority.length))
  | .free, '/' :: rest =>
    let written := writePath (pathBehind form ('/' :: rest))
    some (if ['/', '/'].isPrefixOf written then '/' :: '.' :: written else written)
  | .free, _ => some (escape isUnprintable text)

/-- Whether the character is dropped at both ends of a text. -/
def isOuterSpace (c : Char) : Bool :=
  c.toNat ≤ 0x20

/-- Whether the character is dropped everywhere. -/
def isInnerSpace (c : Char) : Bool :=
  c = '\t' || c = '\n' || c = '\r'

/-- A text without the spaces that do not belong to it. -/
def strip (text : List Char) : List Char :=
  let front := text.dropWhile isOuterSpace
  (front.reverse.dropWhile isOuterSpace).reverse.filter fun c => !isInnerSpace c

/-- The URI that a text writes. -/
def parse? (text : String) : Option Uri := do
  let (scheme, rest) ← splitScheme? (strip text.toList)
  let form := Form.ofScheme scheme
  let (rest, fragment?) := splitFirst '#' rest
  let (hierarchy, query?) := splitFirst '?' rest
  let written ← writeHierarchy? form hierarchy
  let query := query?.elim [] fun query => '?' :: escape (inQuery (form != .free)) query
  let fragment := fragment?.elim [] fun fragment => '#' :: escape inFragment fragment
  some ⟨String.ofList (scheme ++ ':' :: written ++ query ++ fragment)⟩

end Uri

end TemplateHover
