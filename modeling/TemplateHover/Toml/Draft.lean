import TemplateHover.Toml.Key

namespace TemplateHover.Toml

/-- How a table came to be: by a header of its own, by a header of a table inside it, or by a key
with points. It decides what may be added to the table. -/
inductive Origin where
  | header
  | implied
  | dotted
deriving DecidableEq

/-- What a key stands for while a document is being read: a complete value, a table that may still
grow, or the tables of a repeated header, newest first. -/
inductive Draft where
  | value (value : Value)
  | table (origin : Origin) (entries : List (String × Draft))
  | tables (elements : List (List (String × Draft)))

/-- The entries of a table that may still grow, in the order in which they came. -/
abbrev Entries := List (String × Draft)

/-- Changes what one key stands for, or adds the key at the end. -/
def change? (key : String) (change : Option Draft → Option Draft) : Entries → Option Entries
  | [] => (change none).map fun draft => [(key, draft)]
  | (name, draft) :: entries =>
    if name = key then (change (some draft)).map fun draft => (name, draft) :: entries
    else (change? key change entries).map fun entries => (name, draft) :: entries

/-- Edits the table that a path leads to. Tables on the way that are missing are made with the
given origin, a repeated header leads into its newest table, and a key with points does not lead
into a table that has a header. -/
def within? (made : Origin) (edit : Origin → Entries → Option Entries) :
    (path : List String) → Origin → Entries → Option Entries
  | [], origin, entries => edit origin entries
  | key :: path, _, entries =>
    change? key (fun
      | none => (within? made edit path made []).map (.table made)
      | some (.table origin inner) =>
        if made = .dotted ∧ origin = .header then none
        else (within? made edit path origin inner).map (.table origin)
      | some (.tables (newest :: older)) =>
        (within? made edit path .header newest).map fun newest => .tables (newest :: older)
      | some _ => none) entries

/-- Gives a new key a value. A key with points ends in a table that such keys made. -/
def define? (key : Key) (value : Value) : Origin → Entries → Option Entries :=
  within? .dotted
    (fun origin entries =>
      if key.tables.isEmpty = (origin = .dotted : Bool) then none
      else
        change? key.name
          (fun
            | none => some (.value value)
            | some _ => none)
          entries)
    key.tables

/-- Opens a table by its header. Only a table that another header implied may exist before. -/
def openTable? (key : Key) : Entries → Option Entries :=
  within? .implied
    (fun _ => change? key.name fun
      | none => some (.table .header [])
      | some (.table .implied entries) => some (.table .header entries)
      | some _ => none)
    key.tables .header

/-- Opens another table of a repeated header. -/
def openElement? (key : Key) : Entries → Option Entries :=
  within? .implied
    (fun _ => change? key.name fun
      | none => some (.tables [[]])
      | some (.tables elements) => some (.tables ([] :: elements))
      | some _ => none)
    key.tables .header

mutual

/-- The value of a draft that has got all its entries. -/
def Draft.complete : Draft → Value
  | .value value => value
  | .table _ entries => .table (completeEntries entries)
  | .tables elements => .array (completeTables [] elements)

/-- The values of all entries. -/
def completeEntries : List (String × Draft) → List (String × Value)
  | [] => []
  | (key, draft) :: entries => (key, draft.complete) :: completeEntries entries

/-- The tables of a repeated header, oldest first. -/
def completeTables (newer : List Value) : List (List (String × Draft)) → List Value
  | [] => newer
  | entries :: older => completeTables (.table (completeEntries entries) :: newer) older

end

/-- The table that pairs of keys and values define. -/
def ofPairs? (pairs : List (Key × Value)) : Option Value :=
  (pairs.foldlM (fun entries (key, value) => define? key value .header entries) []).map
    fun entries => .table (completeEntries entries)

/-- A statement of a document. -/
inductive Statement where
  | header (key : Key)
  | element (key : Key)
  | pair (key : Key) (value : Value)

/-- A document of which some statements have been carried out: its entries, and the path of the
table that takes the next pair. -/
structure Partial where
  entries : Entries
  path : List String

/-- Carries out one statement. -/
def Partial.add? (document : Partial) : Statement → Option Partial
  | .header key => (openTable? key document.entries).map fun entries => ⟨entries, key.parts⟩
  | .element key => (openElement? key document.entries).map fun entries => ⟨entries, key.parts⟩
  | .pair key value =>
    (within? .implied (define? key value) document.path .header document.entries).map
      fun entries => ⟨entries, document.path⟩

/-- The table that the statements of a document define. -/
def ofStatements? (statements : List Statement) : Option Value :=
  (statements.foldlM Partial.add? ⟨[], []⟩).map fun document =>
    .table (completeEntries document.entries)

end TemplateHover.Toml
