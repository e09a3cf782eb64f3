import TemplateHover.Symbol.Table
import TemplateHover.Toml.Parser

namespace TemplateHover

namespace Symbol

/-- The symbol that three strings describe. -/
def ofValues? : Toml.Value → Toml.Value → Toml.Value → Option Symbol
  | .string name, .string signature, .string documentation =>
    some ⟨name, signature, documentation⟩
  | _, _, _ => none

/-- The symbol of a table by its keys, or of an array by the order of its items. Other keys and
further items have no meaning. -/
def ofToml? : Toml.Value → Option Symbol
  | .table entries =>
    match entries.lookup "name", entries.lookup "signature", entries.lookup "documentation" with
    | some name, some signature, some documentation => ofValues? name signature documentation
    | _, _, _ => none
  | .array (name :: signature :: documentation :: _) => ofValues? name signature documentation
  | _ => none

/-- The symbols of an array. Without the array there are none. -/
def listOfToml? : Option Toml.Value → Option (List Symbol)
  | none => some []
  | some (.array items) => items.mapM ofToml?
  | some _ => none

end Symbol

/-- Why a text gives no symbol table. -/
inductive SourceFault where
  /-- It is no TOML document, or its values are not those of a table. -/
  | malformed
  /-- It is written for later tables than these. -/
  | unsupportedVersion (version : Nat)
deriving DecidableEq, Repr

/-- The latest version of the layout of symbol tables. -/
def supportedVersion : Nat := 1

/-- What a fault says, from the general to the particular. What the reader of the text says of a
malformed one is left out. -/
def SourceFault.account : SourceFault → List String
  | .malformed => []
  | .unsupportedVersion version =>
    [s!"unsupported symbol table version {version} (max {supportedVersion})"]

namespace SymbolTable

/-- The version that a document claims, a number of 32 bits. -/
def version? : Toml.Value → Option Nat
  | .integer number => if 0 ≤ number ∧ number < 0x100000000 then some number.toNat else none
  | _ => none

/-- The version and the symbols of a document, if it has the layout of a table. -/
def layout? (document : Toml.Value) : Option (Nat × SymbolTable) := do
  let version ← (document.get? "version").bind version?
  let functions ← Symbol.listOfToml? (document.get? "functions")
  let values ← Symbol.listOfToml? (document.get? "values")
  some (version, ⟨functions, values⟩)

/-- The symbol table that a document describes. The layout is checked before the version. -/
def ofToml (document : Toml.Value) : Except SourceFault SymbolTable :=
  match layout? document with
  | none => .error .malformed
  | some (version, table) =>
    if version ≤ supportedVersion then .ok table else .error (.unsupportedVersion version)

/-- The symbol table that a text describes. -/
def ofText (text : String) : Except SourceFault SymbolTable :=
  match Toml.parse? text with
  | none => .error .malformed
  | some document => ofToml document

end SymbolTable

end TemplateHover
