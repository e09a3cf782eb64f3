namespace TemplateHover

/-- A name that templates may use, how it is written and what it means. -/
structure Symbol where
  name : String
  signature : String
  documentation : String
deriving DecidableEq, Repr

/-- The functions and the values that templates may use. Of two symbols of one kind with the same
name the first one counts. -/
structure SymbolTable where
  functions : List Symbol
  values : List Symbol
deriving DecidableEq, Repr

namespace SymbolTable

/-- The table without symbols. -/
def empty : SymbolTable :=
  ⟨[], []⟩

/-- The symbols of one table and behind them those of another. -/
def append (table added : SymbolTable) : SymbolTable :=
  ⟨table.functions ++ added.functions, table.values ++ added.values⟩

instance : Append SymbolTable :=
  ⟨append⟩

/-- The function with exactly this name. -/
def function? (table : SymbolTable) (name : String) : Option Symbol :=
  table.functions.find? (·.name = name)

/-- The value with exactly this name. -/
def value? (table : SymbolTable) (name : String) : Option Symbol :=
  table.values.find? (·.name = name)

end SymbolTable

end TemplateHover
