import TemplateHover.Symbol.Source

namespace TemplateHover

/-- Why a file cannot be read. -/
inductive ReadFault where
  | notFound
  | isDirectory
  | notDirectory
  | notText
deriving DecidableEq, Repr

/-- What a fault says. -/
def ReadFault.message : ReadFault → String
  | .notFound => "No such file or directory (os error 2)"
  | .isDirectory => "Is a directory (os error 21)"
  | .notDirectory => "Not a directory (os error 20)"
  | .notText => "stream did not contain valid UTF-8"

/-- The texts of all files by their paths. -/
abbrev Files := String → Except ReadFault String

/-- Why a file gives no symbol table. -/
inductive LoadFault where
  | unreadable (path : String) (fault : ReadFault)
  | invalid (path : String) (fault : SourceFault)
deriving DecidableEq, Repr

/-- What a fault says, from the general to the particular. -/
def LoadFault.account : LoadFault → List String
  | .unreadable path fault => [s!"Failed to read symbol table {path}", fault.message]
  | .invalid path fault => s!"Failed to parse symbol table {path}" :: fault.account

/-- The symbol table of a file. -/
def SymbolTable.load (files : Files) (path : String) : Except LoadFault SymbolTable :=
  match files path with
  | .error fault => .error (.unreadable path fault)
  | .ok text =>
    match ofText text with
    | .error fault => .error (.invalid path fault)
    | .ok table => .ok table

/-- The parts of an account in one line. -/
def joinAccount (account : List String) : String :=
  ": ".intercalate account

end TemplateHover
