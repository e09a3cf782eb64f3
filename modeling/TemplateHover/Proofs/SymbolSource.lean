import Mathlib.Data.List.Forall2
import TemplateHover.Symbol.Source

namespace TemplateHover

/-- A value that describes a symbol: a table with its three strings by name, whatever else it holds,
or an array that starts with them. -/
inductive Symbol.DescribedBy : Toml.Value → Symbol → Prop
  | table {entries : List (String × Toml.Value)} {name signature documentation : String} :
      entries.lookup "name" = some (.string name) →
      entries.lookup "signature" = some (.string signature) →
      entries.lookup "documentation" = some (.string documentation) →
      DescribedBy (.table entries) ⟨name, signature, documentation⟩
  | array (name signature documentation : String) (further : List Toml.Value) :
      DescribedBy (.array (.string name :: .string signature :: .string documentation :: further))
        ⟨name, signature, documentation⟩

/-- An entry of a document that describes a list of symbols, item by item. It may be missing, and
then there are no symbols. -/
inductive Symbol.ListedBy : Option Toml.Value → List Symbol → Prop
  | missing : ListedBy none []
  | array {items : List Toml.Value} {symbols : List Symbol} :
      List.Forall₂ DescribedBy items symbols → ListedBy (some (.array items)) symbols

/-- A document with the layout of a symbol table, of a version that 32 bits hold. -/
structure SymbolTable.LaidOut (document : Toml.Value) (version : Int) (table : SymbolTable) :
    Prop where
  numbered : document.get? "version" = some (.integer version)
  inRange : 0 ≤ version ∧ version ≤ 0xffffffff
  functions : Symbol.ListedBy (document.get? "functions") table.functions
  values : Symbol.ListedBy (document.get? "values") table.values

namespace Symbol

theorem ofValues?_eq_some_iff {name signature documentation : Toml.Value} {symbol : Symbol} :
    ofValues? name signature documentation = some symbol ↔
      name = .string symbol.name ∧ signature = .string symbol.signature ∧
        documentation = .string symbol.documentation := by
  constructor
  · intro described
    unfold ofValues? at described
    split at described
    · cases described
      exact ⟨rfl, rfl, rfl⟩
    · cases described
  · rintro ⟨rfl, rfl, rfl⟩
    rfl

theorem describedBy_of_ofToml? {value : Toml.Value} {symbol : Symbol}
    (read : ofToml? value = some symbol) : DescribedBy value symbol := by
  unfold ofToml? at read
  split at read
  · split at read
    · rename_i atName atSignature atDocumentation
      obtain ⟨rfl, rfl, rfl⟩ := ofValues?_eq_some_iff.mp read
      exact .table atName atSignature atDocumentation
    · cases read
  · obtain ⟨rfl, rfl, rfl⟩ := ofValues?_eq_some_iff.mp read
    exact .array _ _ _ _
  · cases read

theorem ofToml?_eq_some_iff {value : Toml.Value} {symbol : Symbol} :
    ofToml? value = some symbol ↔ DescribedBy value symbol := by
  refine ⟨describedBy_of_ofToml?, ?_⟩
  intro described
  cases described with
  | table atName atSignature atDocumentation =>
    simp only [ofToml?, atName, atSignature, atDocumentation, ofValues?]
  | array => rfl

theorem mapM_ofToml?_eq_some_iff {items : List Toml.Value} {symbols : List Symbol} :
    items.mapM ofToml? = some symbols ↔ List.Forall₂ DescribedBy items symbols := by
  induction items generalizing symbols with
  | nil =>
    rw [List.mapM_nil, List.forall₂_nil_left_iff]
    exact ⟨fun same => (Option.some_inj.mp same).symm, fun same => same ▸ rfl⟩
  | cons item items ih =>
    rw [List.mapM_cons, List.forall₂_cons_left_iff]
    constructor
    · intro read
      obtain ⟨symbol, first, more⟩ := Option.bind_eq_some_iff.mp read
      obtain ⟨rest, behind, same⟩ := Option.bind_eq_some_iff.mp more
      exact ⟨symbol, rest, ofToml?_eq_some_iff.mp first, ih.mp behind,
        (Option.some_inj.mp same).symm⟩
    · rintro ⟨symbol, rest, first, behind, rfl⟩
      refine Option.bind_eq_some_iff.mpr ⟨symbol, ofToml?_eq_some_iff.mpr first, ?_⟩
      exact Option.bind_eq_some_iff.mpr ⟨rest, ih.mpr behind, rfl⟩

theorem listOfToml?_eq_some_iff {value : Option Toml.Value} {symbols : List Symbol} :
    listOfToml? value = some symbols ↔ ListedBy value symbols := by
  constructor
  · intro read
    unfold listOfToml? at read
    split at read
    · cases read
      exact .missing
    · exact .array (mapM_ofToml?_eq_some_iff.mp read)
    · cases read
  · intro listed
    cases listed with
    | missing => rfl
    | array each => exact mapM_ofToml?_eq_some_iff.mpr each

end Symbol

namespace SymbolTable

theorem version?_eq_some_iff {value : Option Toml.Value} {version : Nat} :
    value.bind version? = some version ↔
      value = some (.integer version) ∧ version < 0x100000000 := by
  constructor
  · intro read
    obtain ⟨value, rfl, claimed⟩ := Option.bind_eq_some_iff.mp read
    unfold version? at claimed
    split at claimed
    · rename_i number
      split at claimed
      · rename_i inRange
        cases claimed
        refine ⟨?_, by omega⟩
        rw [Int.toNat_of_nonneg inRange.1]
      · cases claimed
    · cases claimed
  · rintro ⟨rfl, inRange⟩
    have bounds : 0 ≤ (version : Int) ∧ (version : Int) < 0x100000000 := by omega
    rw [Option.bind_some, version?, if_pos bounds, Int.toNat_natCast]

/-- The reader takes exactly the documents with the layout of a table. -/
theorem layout?_eq_some_iff {document : Toml.Value} {version : Nat} {table : SymbolTable} :
    layout? document = some (version, table) ↔ LaidOut document version table := by
  constructor
  · intro read
    obtain ⟨number, numbered, rest⟩ := Option.bind_eq_some_iff.mp read
    obtain ⟨functions, atFunctions, rest⟩ := Option.bind_eq_some_iff.mp rest
    obtain ⟨values, atValues, same⟩ := Option.bind_eq_some_iff.mp rest
    cases same
    obtain ⟨isNumber, inRange⟩ := version?_eq_some_iff.mp numbered
    exact ⟨isNumber, by omega, Symbol.listOfToml?_eq_some_iff.mp atFunctions,
      Symbol.listOfToml?_eq_some_iff.mp atValues⟩
  · rintro ⟨numbered, inRange, functions, values⟩
    refine Option.bind_eq_some_iff.mpr ⟨version, version?_eq_some_iff.mpr ⟨numbered, by omega⟩, ?_⟩
    refine Option.bind_eq_some_iff.mpr ⟨_, Symbol.listOfToml?_eq_some_iff.mpr functions, ?_⟩
    exact Option.bind_eq_some_iff.mpr ⟨_, Symbol.listOfToml?_eq_some_iff.mpr values, rfl⟩

theorem LaidOut.exists_version {document : Toml.Value} {version : Int} {table : SymbolTable}
    (laidOut : LaidOut document version table) : ∃ number : Nat, version = number :=
  Int.eq_ofNat_of_zero_le laidOut.inRange.1

theorem ofText_of_laidOut {text : String} {document : Toml.Value} {version : Nat}
    {table : SymbolTable} (read : Toml.parse? text = some document)
    (laidOut : LaidOut document version table) :
    ofText text =
      if version ≤ supportedVersion then .ok table else .error (.unsupportedVersion version) := by
  simp only [ofText, read, ofToml, layout?_eq_some_iff.mpr laidOut]

theorem ofText_of_not_laidOut {text : String}
    (unfit : ¬∃ document version table, Toml.parse? text = some document ∧
      LaidOut document version table) :
    ofText text = .error .malformed := by
  cases read : Toml.parse? text with
  | none => simp only [ofText, read]
  | some document =>
    cases layout : layout? document with
    | none => simp only [ofText, read, ofToml, layout]
    | some pair => exact absurd ⟨document, _, _, read, layout?_eq_some_iff.mp layout⟩ unfit

/-- What comes of a text: a table of a supported version, the fault of a later version, or the fault
of a text without the layout of a table. -/
theorem ofText_cases (text : String) :
    (∃ document version table, Toml.parse? text = some document ∧
      LaidOut document version table ∧ version ≤ 1 ∧ ofText text = .ok table) ∨
    (∃ (document : Toml.Value) (version : Nat) (table : SymbolTable),
      Toml.parse? text = some document ∧ LaidOut document version table ∧ 2 ≤ version ∧
        ofText text = .error (.unsupportedVersion version)) ∨
    (¬∃ document version table, Toml.parse? text = some document ∧
      LaidOut document version table) ∧ ofText text = .error .malformed := by
  by_cases fits : ∃ document version table, Toml.parse? text = some document ∧
      LaidOut document version table
  · obtain ⟨document, version, table, read, laidOut⟩ := fits
    obtain ⟨number, rfl⟩ := laidOut.exists_version
    have outcome := ofText_of_laidOut read laidOut
    split at outcome
    · rename_i supported
      have small : (number : Int) ≤ 1 := Int.ofNat_le.mpr supported
      exact Or.inl ⟨document, number, table, read, laidOut, small, outcome⟩
    · rename_i later
      have large : 2 ≤ number := Nat.not_le.mp later
      exact Or.inr (Or.inl ⟨document, number, table, read, laidOut, large, outcome⟩)
  · exact Or.inr (Or.inr ⟨fits, ofText_of_not_laidOut fits⟩)

/-- Which texts give symbol tables. A text gives a table if and only if its document has the layout
of one with a version of at most one, and the symbols are then those that the document lists. A
later version is the fault if and only if all else fits, and every other text is malformed. -/
theorem sources_accepted_by_layout (text : String) :
    (∀ table, ofText text = .ok table ↔
      ∃ document version, Toml.parse? text = some document ∧
        LaidOut document version table ∧ version ≤ 1) ∧
    (∀ number : Nat, ofText text = .error (.unsupportedVersion number) ↔
      ∃ document table, Toml.parse? text = some document ∧
        LaidOut document number table ∧ 2 ≤ number) ∧
    (ofText text = .error .malformed ↔
      ¬∃ document version table, Toml.parse? text = some document ∧
        LaidOut document version table) := by
  refine ⟨?_, ?_, ?_⟩
  · intro table
    constructor
    · intro given
      rcases ofText_cases text with ⟨document, version, _, read, laidOut, supported, outcome⟩ |
        ⟨_, _, _, _, _, _, outcome⟩ | ⟨_, outcome⟩
      · cases given.symm.trans outcome
        exact ⟨document, version, read, laidOut, supported⟩
      · cases given.symm.trans outcome
      · cases given.symm.trans outcome
    · rintro ⟨document, version, read, laidOut, supported⟩
      obtain ⟨number, rfl⟩ := laidOut.exists_version
      rw [ofText_of_laidOut read laidOut, if_pos (show number ≤ supportedVersion from
        Int.ofNat_le.mp supported)]
  · intro number
    constructor
    · intro given
      rcases ofText_cases text with ⟨_, _, _, _, _, _, outcome⟩ |
        ⟨document, _, table, read, laidOut, later, outcome⟩ | ⟨_, outcome⟩
      · cases given.symm.trans outcome
      · cases given.symm.trans outcome
        exact ⟨document, table, read, laidOut, later⟩
      · cases given.symm.trans outcome
    · rintro ⟨document, table, read, laidOut, later⟩
      rw [ofText_of_laidOut read laidOut, if_neg (show ¬number ≤ supportedVersion from
        Nat.not_le.mpr later)]
  · refine ⟨?_, ofText_of_not_laidOut⟩
    rintro given ⟨document, version, table, read, laidOut⟩
    obtain ⟨number, rfl⟩ := laidOut.exists_version
    rw [ofText_of_laidOut read laidOut] at given
    split at given <;> cases given

/-- A function as an array with an item too many, a later version, and under a later version a value
that is no symbol: one text for each outcome. -/
theorem sources_accepted_by_layout_outcomes :
    let table : SymbolTable := ⟨[⟨"f", "f $x", "Calls f."⟩], []⟩
    let accepted := "version = 0\nfunctions = [[\"f\", \"f $x\", \"Calls f.\", 3]]"
    let later := "version = 2"
    let unfit := "version = 2\nvalues = [7]"
    (ofText accepted = .ok table ∧
      ∃ document version, Toml.parse? accepted = some document ∧
        LaidOut document version table ∧ version ≤ 1) ∧
    (ofText later = .error (.unsupportedVersion 2) ∧
      ∃ document table, Toml.parse? later = some document ∧ LaidOut document 2 table) ∧
    ofText unfit = .error .malformed ∧
      ¬∃ document version table, Toml.parse? unfit = some document ∧
        LaidOut document version table := by
  intro table accepted later unfit
  have given : ofText accepted = .ok table := by decide +kernel
  have unsupported : ofText later = .error (.unsupportedVersion 2) := by decide +kernel
  have malformed : ofText unfit = .error .malformed := by decide +kernel
  obtain ⟨asTable, -, -⟩ := sources_accepted_by_layout accepted
  obtain ⟨-, asLater, -⟩ := sources_accepted_by_layout later
  obtain ⟨-, -, asMalformed⟩ := sources_accepted_by_layout unfit
  obtain ⟨document, further, read, laidOut, -⟩ := (asLater 2).mp unsupported
  exact ⟨⟨given, (asTable table).mp given⟩, ⟨unsupported, document, further, read, laidOut⟩,
    malformed, asMalformed.mp malformed⟩

end SymbolTable

end TemplateHover
