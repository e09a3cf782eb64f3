import TemplateHover.Proofs.SymbolSource
import TemplateHover.Proofs.TomlText

namespace TemplateHover

namespace Toml

variable {name key : String} {known newest : Entries} {older elements : List Entries}
  {value : Value}

theorem change?_append {change : Option Draft → Option Draft} {entries : Entries}
    (new : key ∉ known.map Prod.fst) :
    change? key change (known ++ entries) = (change? key change entries).map (known ++ ·) := by
  induction known with
  | nil => simp
  | cons first known ih =>
    obtain ⟨other, draft⟩ := first
    rw [List.map_cons, List.mem_cons, not_or] at new
    rw [List.cons_append, change?, if_neg (Ne.symm new.1), ih new.2, Option.map_map]
    rfl

theorem change?_new {change : Option Draft → Option Draft} {draft : Draft}
    (new : key ∉ known.map Prod.fst) (made : change none = some draft) :
    change? key change known = some (known ++ [(key, draft)]) := by
  have added : change? key change (known ++ []) = _ := change?_append new
  rw [List.append_nil, change?, made] at added
  exact added

theorem define?_new (new : key ∉ known.map Prod.fst) (value : Value) :
    define? ⟨[], key⟩ value .header known = some (known ++ [(key, .value value)]) := by
  rw [define?, within?]
  exact change?_new new rfl

/-- The entry of a repeated header with the given tables, newest first. Without tables there was no
such header. -/
def repeatedEntry (name : String) : List Entries → Entries
  | [] => []
  | elements => [(name, .tables elements)]

theorem repeatedEntry_of_ne_nil (some : elements ≠ []) :
    repeatedEntry name elements = [(name, .tables elements)] := by
  cases elements with
  | nil => exact absurd rfl some
  | cons newest older => rfl

/-- A repeated header opens a new table, be it the first one or not. -/
theorem add?_element (new : name ∉ known.map Prod.fst) (path : List String) :
    Partial.add? ⟨known ++ repeatedEntry name elements, path⟩ (.element ⟨[], name⟩) =
      some ⟨known ++ repeatedEntry name ([] :: elements), [name]⟩ := by
  rw [Partial.add?, openElement?, within?, change?_append new]
  cases elements with
  | nil => rfl
  | cons newest older => simp [repeatedEntry, change?, Key.parts]

/-- A pair behind a repeated header goes to the end of its newest table. -/
theorem add?_pair (new : name ∉ known.map Prod.fst) (fresh : key ∉ newest.map Prod.fst) :
    Partial.add? ⟨known ++ repeatedEntry name (newest :: older), [name]⟩ (.pair ⟨[], key⟩ value) =
      some ⟨known ++ repeatedEntry name ((newest ++ [(key, .value value)]) :: older), [name]⟩ := by
  rw [Partial.add?, within?, change?_append new]
  simp [repeatedEntry, change?, within?, define?_new fresh]

theorem completeEntries_append (front behind : Entries) :
    completeEntries (front ++ behind) = completeEntries front ++ completeEntries behind := by
  induction front with
  | nil => simp [completeEntries]
  | cons first front ih => simp [completeEntries, ih]

theorem completeTables_eq (newer : List Value) (elements : List Entries) :
    completeTables newer elements =
      (elements.map fun entries => Value.table (completeEntries entries)).reverse ++ newer := by
  induction elements generalizing newer with
  | nil => simp [completeTables]
  | cons entries elements ih => simp [completeTables, ih]

end Toml

namespace Symbol

/-- The block of a symbol: the header of its kind and its three strings, each on a line. -/
inductive BlockText (kind : String) : Symbol → List Char → Prop
  | intro {symbol : Symbol} {name signature documentation : List Char} :
      Toml.WrittenString symbol.name.toList name →
      Toml.WrittenString symbol.signature.toList signature →
      Toml.WrittenString symbol.documentation.toList documentation →
      BlockText kind symbol (Toml.elementLine kind ++ (Toml.stringLine "name" name ++
        (Toml.stringLine "signature" signature ++ Toml.stringLine "documentation" documentation)))

/-- The blocks of symbols of one kind, in order. Empty lines and comments may come before each. -/
inductive BlockTexts (kind : String) : List Symbol → List Char → Prop
  | nil : BlockTexts kind [] []
  | cons {symbol : Symbol} {symbols : List Symbol} {gap block rest : List Char} : Toml.Gap gap →
      BlockText kind symbol block → BlockTexts kind symbols rest →
      BlockTexts kind (symbol :: symbols) (gap ++ (block ++ rest))

/-- The statements of a block. -/
def statements (kind : String) (symbol : Symbol) : List Toml.Statement :=
  [.element ⟨[], kind⟩, .pair ⟨[], "name"⟩ (.string symbol.name),
    .pair ⟨[], "signature"⟩ (.string symbol.signature),
    .pair ⟨[], "documentation"⟩ (.string symbol.documentation)]

/-- The table that a block fills. -/
def entries (symbol : Symbol) : Toml.Entries :=
  [("name", .value (.string symbol.name)), ("signature", .value (.string symbol.signature)),
    ("documentation", .value (.string symbol.documentation))]

/-- What the blocks of symbols of one kind add to a document. -/
def blockEntries (kind : String) (symbols : List Symbol) : Toml.Entries :=
  Toml.repeatedEntry kind (symbols.reverse.map entries)

theorem blockEntries_nil (kind : String) : blockEntries kind [] = [] :=
  rfl

section Blocks

variable {kind : String} {symbols : List Symbol} {known : Toml.Entries}

theorem reads_block {symbol : Symbol} {gap block rest : List Char} {more : List Toml.Statement}
    (bare : Toml.IsBareName kind) (space : Toml.Gap gap) (text : BlockText kind symbol block)
    (reads : Toml.Reads rest more) :
    Toml.Reads (gap ++ (block ++ rest)) (statements kind symbol ++ more) := by
  obtain ⟨name, signature, documentation⟩ := text
  have named : Toml.IsBareName "name" ∧ Toml.IsBareName "signature" ∧
      Toml.IsBareName "documentation" := by decide
  have fromDocumentation := reads.string named.2.2 documentation
  have fromSignature := fromDocumentation.string named.2.1 signature
  have fromName := fromSignature.string named.1 name
  simp only [List.append_assoc]
  exact fromName.element bare space

theorem reads_blocks {text rest : List Char} {more : List Toml.Statement}
    (bare : Toml.IsBareName kind) (blocks : BlockTexts kind symbols text)
    (reads : Toml.Reads rest more) :
    Toml.Reads (text ++ rest) (symbols.flatMap (statements kind) ++ more) := by
  induction blocks with
  | nil => exact reads
  | cons space block _ ih =>
    rw [List.append_assoc, List.append_assoc, List.flatMap_cons, List.append_assoc]
    exact reads_block bare space block ih

/-- A block adds its symbol behind those of the blocks before it. -/
theorem foldlM_statements (new : kind ∉ known.map Prod.fst) (symbol : Symbol) (path : List String) :
    (statements kind symbol).foldlM Toml.Partial.add? ⟨known ++ blockEntries kind symbols, path⟩ =
      some ⟨known ++ blockEntries kind (symbols ++ [symbol]), [kind]⟩ := by
  simp only [statements, List.foldlM_cons, blockEntries, Toml.add?_element new,
    Option.bind_eq_bind, Option.bind_some]
  rw [Toml.add?_pair new (by simp), Option.bind_some, Toml.add?_pair new (by simp),
    Option.bind_some, Toml.add?_pair new (by simp), Option.bind_some]
  simp [entries]

theorem foldlM_blocks (new : kind ∉ known.map Prod.fst) (symbols added : List Symbol)
    (path : List String) :
    ∃ after, (added.flatMap (statements kind)).foldlM Toml.Partial.add?
        ⟨known ++ blockEntries kind symbols, path⟩ =
      some ⟨known ++ blockEntries kind (symbols ++ added), after⟩ := by
  induction added generalizing symbols path with
  | nil => exact ⟨path, by rw [List.append_nil]; rfl⟩
  | cons symbol added ih =>
    obtain ⟨after, behind⟩ := ih (symbols ++ [symbol]) [kind]
    refine ⟨after, ?_⟩
    rw [List.flatMap_cons, List.foldlM_append, foldlM_statements new]
    simpa using behind

/-- The value of a symbol's block. -/
def toToml (symbol : Symbol) : Toml.Value :=
  .table [("name", .string symbol.name), ("signature", .string symbol.signature),
    ("documentation", .string symbol.documentation)]

theorem completeEntries_blockEntries (kind : String) (symbols : List Symbol) :
    Toml.completeEntries (blockEntries kind symbols) =
      if symbols = [] then [] else [(kind, .array (symbols.map toToml))] := by
  split
  · rename_i none
    rw [none]
    rfl
  · rename_i some
    rw [blockEntries, Toml.repeatedEntry_of_ne_nil (by simpa using some), Toml.completeEntries,
      Toml.Draft.complete, Toml.completeTables_eq, Toml.completeEntries, List.append_nil,
      List.map_map, ← List.map_reverse, List.reverse_reverse]
    rfl

end Blocks

theorem listedBy_map_toToml (symbols : List Symbol) :
    ListedBy (some (.array (symbols.map toToml))) symbols := by
  refine .array ?_
  rw [List.forall₂_map_left_iff, List.forall₂_same]
  intro symbol _
  exact .table rfl rfl rfl

/-- Writes the block of a symbol behind an empty line. -/
def writeBlock (kind : String) (symbol : Symbol) : List Char :=
  '\n' :: (Toml.elementLine kind ++ (Toml.stringLine "name" (Toml.writeString symbol.name) ++
    (Toml.stringLine "signature" (Toml.writeString symbol.signature) ++
      Toml.stringLine "documentation" (Toml.writeString symbol.documentation))))

theorem blockTexts_writeBlock (kind : String) (symbols : List Symbol) :
    BlockTexts kind symbols (symbols.flatMap (writeBlock kind)) := by
  induction symbols with
  | nil => exact .nil
  | cons symbol symbols ih =>
    rw [List.flatMap_cons]
    exact .cons (.blank .nil) (.intro (Toml.writtenString_writeString symbol.name)
      (Toml.writtenString_writeString symbol.signature)
      (Toml.writtenString_writeString symbol.documentation)) ih

theorem eq_of_mem_blockEntries {kind key : String} {symbols : List Symbol}
    (member : key ∈ (blockEntries kind symbols).map Prod.fst) : key = kind := by
  unfold blockEntries Toml.repeatedEntry at member
  split at member
  · cases member
  · exact List.mem_singleton.mp member

theorem lookup_blockEntries_of_ne {kind key : String} (other : key ≠ kind) (symbols : List Symbol) :
    (Toml.completeEntries (blockEntries kind symbols)).lookup key = none := by
  rw [completeEntries_blockEntries]
  split
  · rfl
  · rw [List.lookup_cons, beq_false_of_ne other]
    rfl

/-- The blocks of one kind list their symbols, wherever they stand in a document. -/
theorem listedBy_lookup {kind : String} {before after : List (String × Toml.Value)}
    (notBefore : before.lookup kind = none) (notAfter : after.lookup kind = none)
    (symbols : List Symbol) :
    ListedBy ((before ++ (Toml.completeEntries (blockEntries kind symbols) ++ after)).lookup kind)
      symbols := by
  rw [List.lookup_append, notBefore, Option.none_or, List.lookup_append, notAfter, Option.or_none,
    completeEntries_blockEntries]
  split
  · rename_i none
    rw [none]
    exact .missing
  · rw [List.lookup_cons_self]
    exact listedBy_map_toToml symbols

end Symbol

namespace SymbolTable

/-- The line of the version. -/
def versionLine : List Char :=
  "version = 1\n".toList

/-- The texts of symbol files: the version, the blocks of the functions and those of the values. -/
inductive FileText : SymbolTable → List Char → Prop
  | intro {table : SymbolTable} {functions values gap : List Char} :
      Symbol.BlockTexts "functions" table.functions functions →
      Symbol.BlockTexts "values" table.values values → Toml.Gap gap →
      FileText table (versionLine ++ (functions ++ (values ++ gap)))

/-- The statements of a symbol file. -/
def statements (table : SymbolTable) : List Toml.Statement :=
  .pair ⟨[], "version"⟩ (.integer 1) ::
    (table.functions.flatMap (Symbol.statements "functions") ++
      table.values.flatMap (Symbol.statements "values"))

/-- The document of a symbol file. -/
def toToml (table : SymbolTable) : Toml.Value :=
  .table (("version", .integer 1) ::
    (Toml.completeEntries (Symbol.blockEntries "functions" table.functions) ++
      Toml.completeEntries (Symbol.blockEntries "values" table.values)))

theorem reads_version {rest : List Char} {more : List Toml.Statement}
    (reads : Toml.Reads rest more) :
    Toml.Reads (versionLine ++ rest) (.pair ⟨[], "version"⟩ (.integer 1) :: more) := by
  change Toml.Reads ([] ++ (versionLine ++ rest)) _
  refine reads.cons .nil rfl rfl ?_
  rw [List.length_append]
  exact Nat.lt_add_of_pos_left (by decide)

theorem reads_fileText {table : SymbolTable} {text : List Char} (file : FileText table text) :
    Toml.Reads text table.statements := by
  obtain ⟨functions, values, space⟩ := file
  have valuesRead := Symbol.reads_blocks (by decide) values (Toml.reads_gap space)
  rw [List.append_nil] at valuesRead
  exact reads_version (Symbol.reads_blocks (by decide) functions valuesRead)

theorem ofStatements?_statements (table : SymbolTable) :
    Toml.ofStatements? table.statements = some table.toToml := by
  let versioned : Toml.Entries := [("version", .value (.integer 1))]
  -- each kind is new to the document at its first block, whether or not there are functions
  obtain ⟨path, functions⟩ := Symbol.foldlM_blocks
    (show "functions" ∉ versioned.map Prod.fst by decide) [] table.functions []
  have valuesNew : "values" ∉
      (versioned ++ Symbol.blockEntries "functions" table.functions).map Prod.fst := by
    rw [List.map_append, List.mem_append]
    rintro (first | second)
    · exact absurd first (by decide)
    · exact absurd (Symbol.eq_of_mem_blockEntries second) (by decide)
  obtain ⟨after, values⟩ := Symbol.foldlM_blocks valuesNew [] table.values path
  have first : Toml.Partial.add? ⟨[], []⟩ (.pair ⟨[], "version"⟩ (.integer 1)) =
      some ⟨versioned ++ Symbol.blockEntries "functions" [], []⟩ := rfl
  rw [Symbol.blockEntries_nil, List.append_nil, List.nil_append] at values
  rw [List.nil_append] at functions
  rw [Toml.ofStatements?, statements, List.foldlM_cons, first, Option.bind_eq_bind,
    Option.bind_some, List.foldlM_append, functions, Option.bind_eq_bind, Option.bind_some, values,
    Option.map_some, Toml.completeEntries_append, Toml.completeEntries_append, List.append_assoc]
  rfl

theorem laidOut_toToml (table : SymbolTable) : LaidOut table.toToml 1 table := by
  let version : List (String × Toml.Value) := [("version", .integer 1)]
  let functions := Toml.completeEntries (Symbol.blockEntries "functions" table.functions)
  let values := Toml.completeEntries (Symbol.blockEntries "values" table.values)
  have listedFunctions : Symbol.ListedBy ((version ++ (functions ++ values)).lookup "functions")
      table.functions :=
    Symbol.listedBy_lookup rfl (Symbol.lookup_blockEntries_of_ne (by decide) table.values)
      table.functions
  have listedValues : Symbol.ListedBy ((version ++ functions ++ (values ++ [])).lookup "values")
      table.values := by
    refine Symbol.listedBy_lookup ?_ rfl table.values
    rw [List.lookup_append, Symbol.lookup_blockEntries_of_ne (by decide), Option.or_none]
    rfl
  rw [List.append_nil, List.append_assoc] at listedValues
  exact ⟨rfl, by decide, listedFunctions, listedValues⟩

theorem head?_of_fileText {table : SymbolTable} {text : List Char} (file : FileText table text) :
    text.head? = some 'v' := by
  cases file
  rfl

theorem ofText_of_fileText {table : SymbolTable} {text : String}
    (file : FileText table text.toList) : ofText text = .ok table := by
  have unmarked : text.toList.head? ≠ some '\uFEFF' := by
    rw [head?_of_fileText file]
    decide
  have read : Toml.parse? text = some table.toToml := by
    rw [Toml.parse?_of_reads unmarked (reads_fileText file), ofStatements?_statements]
  exact ofText_of_laidOut read table.laidOut_toToml

/-- Writes a symbol file with an empty line before each block. -/
def writeFile (table : SymbolTable) : String :=
  String.ofList (versionLine ++
    (table.functions.flatMap (Symbol.writeBlock "functions") ++
      table.values.flatMap (Symbol.writeBlock "values")))

theorem fileText_writeFile (table : SymbolTable) : FileText table table.writeFile.toList := by
  have file : FileText table (versionLine ++
      (table.functions.flatMap (Symbol.writeBlock "functions") ++
        (table.values.flatMap (Symbol.writeBlock "values") ++ []))) :=
    .intro (Symbol.blockTexts_writeBlock "functions" table.functions)
      (Symbol.blockTexts_writeBlock "values" table.values) .nil
  rw [List.append_nil] at file
  rw [writeFile, String.toList_ofList]
  exact file

/-- Symbol files load exactly. Whatever the names, signatures and documentations are, the file that
is written for a table gives the table back, and so does every text with the layout of such a file,
however its strings are escaped and whatever empty lines and comments stand between its blocks. -/
theorem symbol_files_load_exactly (functions values : List Symbol) :
    ofText (writeFile ⟨functions, values⟩) = .ok ⟨functions, values⟩ ∧
    ∀ text : String, FileText ⟨functions, values⟩ text.toList →
      ofText text = .ok ⟨functions, values⟩ := by
  refine ⟨ofText_of_fileText (fileText_writeFile ⟨functions, values⟩), ?_⟩
  intro text file
  exact ofText_of_fileText file

/-- A file with a comment and escapes of several kinds, in strings that look like other parts of a
document. -/
theorem symbol_files_load_exactly_escapes :
    let text := "version = 1\n# own \"symbols\"\n\n[[values]]\nname = \"a\\u0022\\\"\"\n" ++
      "signature = \"\"\ndocumentation = \"\\U0001D11e# = [[x]]\\n\"\n"
    let table : SymbolTable := ⟨[], [⟨"a\"\"", "", "𝄞# = [[x]]\n"⟩]⟩
    FileText table text.toList ∧ ofText text = .ok table := by
  intro text table
  have name : Toml.WrittenString "a\"\"".toList
      (['a'] ++ ('\\' :: 'u' :: Toml.hexText '"'.toNat ++ (['\\', '"'] ++ []))) := by
    rw [show "a\"\"".toList = ['a', '"', '"'] by decide +kernel]
    exact .cons (.plain (by decide) (by decide) (by decide))
      (.cons (.short (Toml.writesCode_hexText (by decide))) (.cons .quote .nil))
  have clef : Toml.WritesCode ['0', '0', '0', '1', 'D', '1', '1', 'e'] '𝄞' := by
    refine ⟨[0, 0, 0, 1, 13, 1, 1, 14], ?_, by decide⟩
    simp only [List.forall₂_cons, List.Forall₂.nil, and_true, Toml.IsHexDigit]
    decide
  have documentation : Toml.WrittenString "𝄞# = [[x]]\n".toList
      ('\\' :: 'U' :: ['0', '0', '0', '1', 'D', '1', '1', 'e'] ++
        Toml.writeString "# = [[x]]\n") := by
    rw [show "𝄞# = [[x]]\n".toList = '𝄞' :: "# = [[x]]\n".toList by decide +kernel]
    exact .cons (.long clef) (Toml.writtenString_writeString _)
  have space : Toml.Gap ('#' :: (" own \"symbols\"".toList ++ '\n' :: ['\n'])) := by
    refine .comment ?_ (.blank .nil)
    have each : " own \"symbols\"".toList.all (fun c => decide (Toml.IsVisible c)) = true := by
      decide +kernel
    intro c member
    exact of_decide_eq_true (List.all_eq_true.mp each c member)
  have values : Symbol.BlockTexts "values" table.values _ :=
    .cons space (.intro name .nil documentation) .nil
  have written : ∃ chars, FileText table chars ∧ chars = text.toList :=
    ⟨_, .intro .nil values .nil, by decide +kernel⟩
  obtain ⟨_, file, same⟩ := written
  rw [same] at file
  exact ⟨file, (symbol_files_load_exactly [] table.values).2 text file⟩

end SymbolTable

end TemplateHover
