import TemplateHover.Proofs.SetUp
import TemplateHover.Proofs.UserSymbols

namespace TemplateHover

attribute [ext] SymbolTable

namespace SymbolTable

variable {table first added : SymbolTable} {rest : List SymbolTable}

theorem append_assoc (a b c : SymbolTable) : a ++ b ++ c = a ++ (b ++ c) :=
  SymbolTable.ext (List.append_assoc _ _ _) (List.append_assoc _ _ _)

theorem empty_append (table : SymbolTable) : empty ++ table = table :=
  rfl

theorem append_empty (table : SymbolTable) : table ++ empty = table :=
  SymbolTable.ext (List.append_nil _) (List.append_nil _)

/-- A table with others put behind it, one after the other. -/
def layered (first : SymbolTable) (rest : List SymbolTable) : SymbolTable :=
  rest.foldl (· ++ ·) first

theorem layered_cons (first next : SymbolTable) (rest : List SymbolTable) :
    layered first (next :: rest) = layered (first ++ next) rest :=
  rfl

/-- A question that a table leaves to the one behind it is answered by the first layer that can. -/
theorem findSome?_layers {α : Type} (ask : SymbolTable → Option α)
    (joins : ∀ a b, ask (a ++ b) = (ask a).or (ask b)) :
    ask (layered first rest) = (first :: rest).findSome? ask := by
  induction rest generalizing first with
  | nil => rw [List.findSome?_singleton, layered, List.foldl_nil]
  | cons next rest ih =>
    rw [layered_cons, ih, List.findSome?_cons, List.findSome?_cons, List.findSome?_cons, joins]
    cases ask first <;> rfl

/-- What two tables have one behind the other, all layers have in their order. -/
theorem flatMap_layers {α : Type} {list : SymbolTable → List α}
    (joins : ∀ a b, list (a ++ b) = list a ++ list b) :
    list (layered first rest) = (first :: rest).flatMap list := by
  induction rest generalizing first with
  | nil => rw [List.flatMap_singleton, layered, List.foldl_nil]
  | cons next rest ih =>
    rw [layered_cons, ih, List.flatMap_cons, List.flatMap_cons, List.flatMap_cons, joins,
      List.append_assoc]

theorem functions_layered (first : SymbolTable) (rest : List SymbolTable) :
    (layered first rest).functions = (first :: rest).flatMap (·.functions) :=
  flatMap_layers fun _ _ => rfl

theorem values_layered (first : SymbolTable) (rest : List SymbolTable) :
    (layered first rest).values = (first :: rest).flatMap (·.values) :=
  flatMap_layers fun _ _ => rfl

theorem function?_layered (first : SymbolTable) (rest : List SymbolTable) (name : String) :
    (layered first rest).function? name = (first :: rest).findSome? (·.function? name) :=
  findSome?_layers (·.function? name) fun a b => function?_append a b name

theorem value?_layered (first : SymbolTable) (rest : List SymbolTable) (name : String) :
    (layered first rest).value? name = (first :: rest).findSome? (·.value? name) :=
  findSome?_layers (·.value? name) fun a b => value?_append a b name

theorem function?_congr {other : SymbolTable} (same : other.functions = table.functions)
    (name : String) : other.function? name = table.function? name := by
  rw [function?, function?, same]

theorem value?_congr {other : SymbolTable} (same : other.values = table.values)
    (name : String) : other.value? name = table.value? name := by
  rw [value?, value?, same]

/-- A way to put tables one behind another, two at a time. -/
inductive Grouping where
  | table (table : SymbolTable)
  | joined (left right : Grouping)

namespace Grouping

def merged : Grouping → SymbolTable
  | .table table => table
  | .joined left right => left.merged ++ right.merged

def layers : Grouping → List SymbolTable
  | .table table => [table]
  | .joined left right => left.layers ++ right.layers

theorem flatMap_layers {α : Type} {list : SymbolTable → List α}
    (joins : ∀ a b, list (a ++ b) = list a ++ list b) (grouping : Grouping) :
    list grouping.merged = grouping.layers.flatMap list := by
  induction grouping with
  | table table => rw [merged, layers, List.flatMap_singleton]
  | joined left right leftSame rightSame =>
    rw [merged, layers, joins, leftSame, rightSame, List.flatMap_append]

/-- Only the order of the tables counts, and not which of them are put together first. -/
theorem merged_eq_layered {grouping : Grouping} (same : grouping.layers = first :: rest) :
    grouping.merged = layered first rest := by
  apply SymbolTable.ext
  · rw [functions_layered, ← same]
    exact grouping.flatMap_layers fun _ _ => rfl
  · rw [values_layered, ← same]
    exact grouping.flatMap_layers fun _ _ => rfl

end Grouping

/-- Where symbols come from: a table, a text, or a file with the files at its time. -/
inductive Source where
  | given (table : SymbolTable)
  | written (text : String)
  | stored (files : Files) (path : String)

namespace Source

/-- The table of a source, or an account of what is wrong with it. -/
def load : Source → Except (List String) SymbolTable
  | .given table => .ok table
  | .written text => (ofText text).mapError SourceFault.account
  | .stored files path => (SymbolTable.load files path).mapError LoadFault.account

/-- The table of a source that can be loaded. -/
def table? (source : Source) : Option SymbolTable :=
  source.load.toOption

/-- A source without a table: a text that is no table or one of a later version, be it in a file, or
a file that cannot be read. -/
inductive Fails : Source → Prop
  | written {text : String} {fault : SourceFault} :
      ofText text = .error fault → Fails (.written text)
  | unreadable {files : Files} {path : String} {fault : ReadFault} :
      files path = .error fault → Fails (.stored files path)
  | stored {files : Files} {path text : String} {fault : SourceFault} :
      files path = .ok text → ofText text = .error fault → Fails (.stored files path)

end Source

/-- Puts the symbols of a source behind those of the table at hand. -/
def extendFrom (source : Source) : ExceptT (List String) (StateM SymbolTable) Unit := do
  let added ← source.load
  modify (· ++ added)

/-- The table behind several sources, each of them tried on what the ones before it left. -/
def extendedBy (table : SymbolTable) (sources : List Source) : SymbolTable :=
  sources.foldl (fun table source => ((extendFrom source).run.run table).2) table

namespace Source

variable {source : Source}

theorem load_of_fails (fails : source.Fails) : ∃ account, source.load = .error account := by
  cases fails with
  | @written text fault malformed =>
    refine ⟨fault.account, ?_⟩
    rw [load, malformed]
    rfl
  | @unreadable files path fault missing =>
    refine ⟨(LoadFault.unreadable path fault).account, ?_⟩
    rw [load, SymbolTable.load, missing]
    rfl
  | @stored files path text fault read malformed =>
    refine ⟨(LoadFault.invalid path fault).account, ?_⟩
    simp only [load, SymbolTable.load, read, malformed]
    rfl

theorem fails_of_load {account : List String} (failed : source.load = .error account) :
    source.Fails := by
  cases source with
  | given table => cases failed
  | written text =>
    cases outcome : ofText text with
    | ok table =>
      rw [load, outcome] at failed
      cases failed
    | error fault => exact .written outcome
  | stored files path =>
    cases read : files path with
    | error fault => exact .unreadable read
    | ok text =>
      cases outcome : ofText text with
      | ok table =>
        simp only [load, SymbolTable.load, read, outcome] at failed
        cases failed
      | error fault => exact .stored read outcome

theorem table?_of_ok (loaded : source.load = .ok added) : source.table? = some added := by
  rw [table?, loaded, Except.toOption]

theorem table?_of_error {account : List String} (failed : source.load = .error account) :
    source.table? = none := by
  rw [table?, failed, Except.toOption]

theorem fails_iff : source.Fails ↔ source.table? = none := by
  constructor
  · intro fails
    obtain ⟨account, failed⟩ := load_of_fails fails
    exact table?_of_error failed
  · intro missing
    cases outcome : source.load with
    | ok added => cases missing.symm.trans (table?_of_ok outcome)
    | error account => exact fails_of_load outcome

theorem run_extendFrom_of_ok (loaded : source.load = .ok added) (table : SymbolTable) :
    (extendFrom source).run.run table = (.ok (), table ++ added) := by
  rw [extendFrom, loaded]
  rfl

theorem run_extendFrom_of_error {account : List String} (failed : source.load = .error account)
    (table : SymbolTable) : (extendFrom source).run.run table = (.error account, table) := by
  rw [extendFrom, failed]
  rfl

end Source

theorem extendedBy_cons (table : SymbolTable) (source : Source) (sources : List Source) :
    table.extendedBy (source :: sources) =
      extendedBy ((extendFrom source).run.run table).2 sources :=
  rfl

/-- The table behind several sources has a layer for each source that could be loaded. -/
theorem extendedBy_eq_layered (table : SymbolTable) (sources : List Source) :
    table.extendedBy sources = layered table (sources.filterMap Source.table?) := by
  induction sources generalizing table with
  | nil => rfl
  | cons source sources ih =>
    rw [extendedBy_cons, ih]
    cases loaded : source.load with
    | ok added =>
      rw [Source.run_extendFrom_of_ok loaded, List.filterMap_cons_some (Source.table?_of_ok loaded),
        layered_cons]
    | error account =>
      rw [Source.run_extendFrom_of_error loaded,
        List.filterMap_cons_none (Source.table?_of_error loaded)]

theorem extendedBy_of_fails {source : Source} (fails : source.Fails) (table : SymbolTable)
    (before after : List Source) :
    table.extendedBy (before ++ source :: after) = table.extendedBy (before ++ after) := by
  obtain ⟨account, failed⟩ := Source.load_of_fails fails
  rw [extendedBy_eq_layered, extendedBy_eq_layered, List.filterMap_append, List.filterMap_append,
    List.filterMap_cons_none (Source.table?_of_error failed)]

end SymbolTable

namespace Session

open SymbolTable

variable {session : Session} {files : Files} {options : Option Json} {settings : Settings}
  {path : String}

/-- The symbols that settings ask for are those of a file put behind the builtin ones. -/
theorem run_extendFrom_builtin (named : settings.symbols = some path) (files : Files) :
    (extendFrom (.stored files path)).run.run .builtin =
      match tableFor files settings with
      | .ok table => (.ok (), table)
      | .error fault => (.error fault.account, .builtin) := by
  cases outcome : SymbolTable.load files path with
  | ok added =>
    have loaded : Source.load (.stored files path) = .ok added := by
      rw [Source.load, outcome]
      rfl
    simp only [Source.run_extendFrom_of_ok loaded, tableFor, named, outcome]
  | error fault =>
    have failed : Source.load (.stored files path) = .error fault.account := by
      rw [Source.load, outcome]
      rfl
    simp only [Source.run_extendFrom_of_error failed, tableFor, named, outcome]

theorem step_setUp_of_fails (read : settingsOf options = .ok settings)
    (named : settings.symbols = some path) (fails : Source.Fails (.stored files path)) :
    (session.step files (.setUp options)).1 = session := by
  obtain ⟨account, failed⟩ := Source.load_of_fails fails
  have stopped := Source.run_extendFrom_of_error failed .builtin
  rw [run_extendFrom_builtin named] at stopped
  obtain ⟨_, _, result⟩ | ⟨_, _, _, _, result⟩ | ⟨_, _, _, _, _, result⟩ |
    ⟨_, table, again, _, loaded, _⟩ := setUp_cases files options session
  · rw [step, result]
  · rw [step, result]
  · rw [step, result]
  · cases read.symm.trans again
    rw [loaded] at stopped
    cases stopped

theorem step_setUp_of_load {added : SymbolTable} (read : settingsOf options = .ok settings)
    (named : settings.symbols = some path) (loaded : SymbolTable.load files path = .ok added)
    (fresh : session.provider = none) :
    (session.step files (.setUp options)).1 =
      { session with provider := some ⟨layered .builtin [added], settings.language⟩ } := by
  simp only [step, setUp, read, activate, fresh, tableFor, named, loaded, layered, List.foldl_cons,
    List.foldl_nil]

end Session

namespace SymbolTable

/-- A table of several layers is looked up in the order of the layers. A name is found in the first
layer that has it, functions and values apart, and the symbols of all layers stand in their order,
however the layers are put together. A source that cannot be loaded, for whichever reason, leaves the
table as it was. A session puts the symbols of a file behind the builtin ones in just this way, and a
start whose file cannot be loaded leaves no trace. -/
theorem layers_looked_up_in_order (first : SymbolTable) (rest : List SymbolTable) :
    let merged := layered first rest
    let layers := first :: rest
    (∀ name,
      merged.function? name = layers.findSome? (·.function? name) ∧
      merged.value? name = layers.findSome? (·.value? name) ∧
      (merged.function? name = none ↔ ∀ layer ∈ layers, layer.function? name = none) ∧
      (merged.value? name = none ↔ ∀ layer ∈ layers, layer.value? name = none)) ∧
    (∀ other others,
      ((other :: others).map (·.functions) = layers.map (·.functions) →
        ∀ name, (layered other others).function? name = merged.function? name) ∧
      ((other :: others).map (·.values) = layers.map (·.values) →
        ∀ name, (layered other others).value? name = merged.value? name)) ∧
    (merged.functions = layers.flatMap (·.functions) ∧
      merged.values = layers.flatMap (·.values)) ∧
    ((∀ a b c : SymbolTable, a ++ b ++ c = a ++ (b ++ c)) ∧
      ∀ table, empty ++ table = table ∧ table ++ empty = table) ∧
    (∀ grouping : Grouping, grouping.layers = layers → grouping.merged = merged) ∧
    (∀ sources, first.extendedBy sources = layered first (sources.filterMap Source.table?)) ∧
    (∀ source : Source, source.Fails ↔ source.table? = none) ∧
    (∀ source before after, Source.Fails source →
      (∃ account, (extendFrom source).run.run (first.extendedBy before) =
        (.error account, first.extendedBy before)) ∧
      first.extendedBy (before ++ source :: after) = first.extendedBy (before ++ after)) ∧
    ∀ (session : Session) (files : Files) (options : Option Json) (settings : Settings)
      (path : String), Session.settingsOf options = .ok settings → settings.symbols = some path →
      (extendFrom (.stored files path)).run.run .builtin =
        (match Session.tableFor files settings with
          | .ok table => (.ok (), table)
          | .error fault => (.error fault.account, .builtin)) ∧
      (Source.Fails (.stored files path) → (session.step files (.setUp options)).1 = session) ∧
      ∀ added, load files path = .ok added → session.provider = none →
        (session.step files (.setUp options)).1 =
          { session with provider := some ⟨layered .builtin [added], settings.language⟩ } := by
  intro merged layers
  have lists (other : SymbolTable) (others : List SymbolTable) (list : SymbolTable → List Symbol)
      (same : (other :: others).map list = layers.map list) :
      (other :: others).flatMap list = layers.flatMap list := by
    rw [List.flatMap_def, List.flatMap_def, same]
  refine ⟨?_, ?_, ⟨functions_layered first rest, values_layered first rest⟩, ⟨append_assoc, ?_⟩, ?_,
    extendedBy_eq_layered first, ?_, ?_, ?_⟩
  · intro name
    have functions := function?_layered first rest name
    have values := value?_layered first rest name
    refine ⟨functions, values, ?_, ?_⟩
    · rw [functions, List.findSome?_eq_none_iff]
    · rw [values, List.findSome?_eq_none_iff]
  · intro other others
    refine ⟨?_, ?_⟩
    · intro same
      apply function?_congr
      rw [functions_layered, functions_layered]
      exact lists other others _ same
    · intro same
      apply value?_congr
      rw [values_layered, values_layered]
      exact lists other others _ same
  · intro table
    exact ⟨empty_append table, append_empty table⟩
  · intro grouping same
    exact Grouping.merged_eq_layered same
  · intro source
    exact Source.fails_iff
  · intro source before after fails
    obtain ⟨account, failed⟩ := Source.load_of_fails fails
    exact ⟨⟨account, Source.run_extendFrom_of_error failed _⟩,
      extendedBy_of_fails fails first before after⟩
  · intro session files options settings path read named
    refine ⟨Session.run_extendFrom_builtin named files, ?_, ?_⟩
    · intro fails
      exact Session.step_setUp_of_fails read named fails
    · intro added loaded fresh
      exact Session.step_setUp_of_load read named loaded fresh

/-- Three layers with one name for two functions and a value. The function of the first layer is
found behind a source of a later version, and a start with a file that is missing leaves no trace. -/
theorem layers_looked_up_in_order_version_two :
    let first : SymbolTable := ⟨[⟨"f", "f $a", "First."⟩], []⟩
    let second : SymbolTable := ⟨[⟨"f", "f $b", "Second."⟩, ⟨"g", "g", "Added."⟩], []⟩
    let third : SymbolTable := ⟨[], [⟨"f", ".f", "A value."⟩]⟩
    let grouping : Grouping := .joined (.table first) (.joined (.table second) (.table third))
    let sources := [Source.given second, .written "version = 2", .given third]
    let missing : Files := fun _ => .error .notFound
    let options : Option Json := some (.array [.string "helm", .string "extra.toml"])
    grouping.merged.function? "f" = some ⟨"f", "f $a", "First."⟩ ∧
      grouping.merged.value? "f" = some ⟨"f", ".f", "A value."⟩ ∧
      first.extendedBy sources = grouping.merged ∧
      (Session.start.step missing (.setUp options)).1 = Session.start := by
  intro first second third grouping sources missing options
  obtain ⟨looked, -, -, -, grouped, -, -, skipped, started⟩ :=
    layers_looked_up_in_order first [second, third]
  have later : Source.Fails (.written "version = 2") := Source.fails_iff.mpr (by decide +kernel)
  have merged := grouped grouping rfl
  obtain ⟨functions, values, -, -⟩ := looked "f"
  obtain ⟨-, passed⟩ := skipped _ [.given second] [.given third] later
  obtain ⟨-, unchanged, -⟩ :=
    started .start missing options ⟨"helm", some "extra.toml"⟩ "extra.toml" rfl rfl
  rw [merged]
  exact ⟨functions, values, passed, unchanged (.unreadable rfl)⟩

end SymbolTable

end TemplateHover
