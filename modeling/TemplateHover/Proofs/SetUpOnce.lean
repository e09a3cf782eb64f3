import TemplateHover.Proofs.DocumentHistory
import TemplateHover.Proofs.FolderFiles
import TemplateHover.Proofs.SettingsShape
import TemplateHover.Proofs.SymbolFile

namespace TemplateHover.Session

/-- The first call of a run that starts the session with success, with the files at its time and
its options. -/
def firstSetUp? (session : Session) : List (Files × Call) → Option (Files × Option Json)
  | [] => none
  | (files, .setUp options) :: rest =>
    if (session.setUp files options).2.result.isOk then some (files, options)
    else (session.setUp files options).1.firstSetUp? rest
  | (files, call) :: rest => (session.step files call).1.firstSetUp? rest

/-- Options with the shape of settings, or none at all. -/
def OptionsFit : Option Json → Prop
  | none => True
  | some options => Settings.Fits options

/-- The settings that options choose. -/
def chosenSettings : Option Json → Settings
  | none => .default
  | some options => ⟨Settings.chosenLanguage options, Settings.chosenFile? options⟩

/-- The chosen file gives no symbols. -/
def FileFails (files : Files) (options : Option Json) : Prop :=
  ∃ path fault, (chosenSettings options).symbols = some path ∧
    SymbolTable.load files path = .error fault

/-- A maker of tooltips has the chosen language, the builtin symbols, and behind them those of the
chosen file in their order. -/
def Provides (files : Files) (options : Option Json) (provider : Provider) : Prop :=
  provider.language = (chosenSettings options).language ∧
    match (chosenSettings options).symbols with
    | none => provider.table = .builtin
    | some path => ∃ table, SymbolTable.load files path = .ok table ∧
        provider.table.functions = SymbolTable.builtin.functions ++ table.functions ∧
        provider.table.values = SymbolTable.builtin.values ++ table.values

/-- A call that starts a session whose tooltips are not set up yet, with the files at its time. -/
def Starts : Files × Call → Prop
  | (files, .setUp options) => OptionsFit options ∧ ¬FileFails files options
  | _ => False

/-- The first call of a run that starts the session, if there is one. -/
def FirstStart (calls : List (Files × Call)) : Option (Files × Option Json) → Prop
  | none => ∀ entry ∈ calls, ¬Starts entry
  | some (files, options) => ∃ before after, calls = before ++ (files, .setUp options) :: after ∧
      (∀ entry ∈ before, ¬Starts entry) ∧ Starts (files, .setUp options)

theorem settingsOf_of_fit {options : Option Json} (fit : OptionsFit options) :
    settingsOf options = .ok (chosenSettings options) := by
  cases options with
  | none => rfl
  | some options => exact Settings.ofJson_of_fits fit

theorem fit_of_settingsOf {options : Option Json} {settings : Settings}
    (read : settingsOf options = .ok settings) : OptionsFit options := by
  cases options with
  | none => trivial
  | some options => exact Settings.fits_of_ofJson read

theorem fileFails_iff (files : Files) (options : Option Json) :
    FileFails files options ↔ ∃ fault, tableFor files (chosenSettings options) = .error fault := by
  unfold FileFails tableFor
  cases (chosenSettings options).symbols with
  | none => simp
  | some path => cases loaded : SymbolTable.load files path <;> simp [loaded]

/-- A maker of tooltips has what options ask for exactly if it has the table of the settings that
they choose, and their language. -/
theorem provides_iff_of_tableFor {files : Files} {options : Option Json} {table : SymbolTable}
    (load : tableFor files (chosenSettings options) = .ok table) {provider : Provider} :
    Provides files options provider ↔ provider = ⟨table, (chosenSettings options).language⟩ := by
  obtain ⟨⟨functions, values⟩, language⟩ := provider
  unfold Provides
  unfold tableFor at load
  cases named : (chosenSettings options).symbols with
  | none =>
    rw [named] at load
    cases load
    simp [and_comm]
  | some path =>
    rw [named] at load
    cases loaded : SymbolTable.load files path with
    | error fault =>
      simp only [loaded] at load
      cases load
    | ok added =>
      simp only [loaded] at load
      cases load
      constructor
      · rintro ⟨same, table, read, atFunctions, atValues⟩
        cases loaded.symm.trans read
        cases same
        cases atFunctions
        cases atValues
        rfl
      · intro same
        cases same
        exact ⟨rfl, added, loaded, rfl, rfl⟩

theorem tableFor_of_load {files : Files} {settings : Settings} {path : String}
    (named : settings.symbols = some path) {table : SymbolTable}
    (loaded : SymbolTable.load files path = .ok table) :
    tableFor files settings = .ok (.builtin ++ table) := by
  simp only [tableFor, named, loaded]

theorem setUp_of_not_fit {options : Option Json} (unfit : ¬OptionsFit options) (files : Files)
    (session : Session) :
    ∃ message, session.setUp files options = (session, .refused (.invalidParams message)) := by
  obtain ⟨fault, _, result⟩ | ⟨_, _, read, _⟩ | ⟨_, _, read, _⟩ | ⟨_, _, read, _⟩ :=
    setUp_cases files options session
  · exact ⟨fault.message, result⟩
  all_goals exact absurd (fit_of_settingsOf read) unfit

theorem setUp_of_fit_of_provider_some {options : Option Json} (fit : OptionsFit options)
    {session : Session} (present : session.provider.isSome = true) (files : Files) :
    session.setUp files options = (session, .ok .capabilities) := by
  obtain ⟨_, unread, _⟩ | ⟨_, _, _, _, result⟩ | ⟨_, _, _, missing, _⟩ | ⟨_, _, _, missing, _⟩ :=
    setUp_cases files options session
  · cases (settingsOf_of_fit fit).symm.trans unread
  · exact result
  all_goals
    rw [missing] at present
    cases present

theorem setUp_of_fileFails {files : Files} {options : Option Json} (fit : OptionsFit options)
    {session : Session} (fresh : session.provider = none) (fails : FileFails files options) :
    ∃ message, session.setUp files options = (session, .refused (.internalError message)) := by
  obtain ⟨fault, load⟩ := (fileFails_iff files options).mp fails
  refine ⟨"Failed to load symbols: " ++ joinAccount fault.account, ?_⟩
  simp only [setUp, settingsOf_of_fit fit, activate, fresh, load]

theorem setUp_of_not_fileFails {files : Files} {options : Option Json} (fit : OptionsFit options)
    {session : Session} (fresh : session.provider = none) (works : ¬FileFails files options) :
    ∃ provider, Provides files options provider ∧
      session.setUp files options =
        ({ session with provider := some provider }, .ok .capabilities) := by
  cases load : tableFor files (chosenSettings options) with
  | error fault => exact absurd ((fileFails_iff files options).mpr ⟨fault, load⟩) works
  | ok table =>
    refine ⟨_, (provides_iff_of_tableFor load).mpr rfl, ?_⟩
    simp only [setUp, settingsOf_of_fit fit, activate, fresh, load]

theorem isOk_setUp_iff {session : Session} (fresh : session.provider = none) (files : Files)
    (options : Option Json) :
    (session.setUp files options).2.result.isOk = true ↔ Starts (files, .setUp options) := by
  by_cases fit : OptionsFit options
  · by_cases fails : FileFails files options
    · obtain ⟨message, result⟩ := setUp_of_fileFails fit fresh fails
      rw [result]
      refine ⟨?_, fun starts => absurd fails starts.2⟩
      intro succeeded
      cases succeeded
    · obtain ⟨provider, _, result⟩ := setUp_of_not_fileFails fit fresh fails
      rw [result]
      exact ⟨fun _ => ⟨fit, fails⟩, fun _ => rfl⟩
  · obtain ⟨message, result⟩ := setUp_of_not_fit fit files session
    rw [result]
    refine ⟨?_, fun starts => absurd starts.1 fit⟩
    intro succeeded
    cases succeeded

theorem not_starts_of_ne_setUp (files : Files) {call : Call}
    (other : ∀ options, call ≠ .setUp options) : ¬Starts (files, call) := by
  cases call with
  | setUp options => exact absurd rfl (other options)
  | ready | shutdown | opened | changed | closed | hover | completion => exact id

theorem provider_step_of_ne_setUp (files : Files) (session : Session) {call : Call}
    (other : ∀ options, call ≠ .setUp options) :
    (session.step files call).1.provider = session.provider := by
  cases call with
  | setUp options => exact absurd rfl (other options)
  | ready | shutdown | opened | closed | hover | completion => rfl
  | changed uri version changes =>
    simp only [step, change]
    cases changes.getLast? with
    | none => rfl
    | some last => cases session.documents.get? uri <;> rfl

/-- Once tooltips are set up, no call replaces their maker. -/
theorem provider_step_of_some {session : Session} {provider : Provider}
    (present : session.provider = some provider) (files : Files) (call : Call) :
    (session.step files call).1.provider = some provider := by
  cases call with
  | setUp options =>
    rw [step, setUp_of_provider_some present]
    exact present
  | ready | shutdown | opened | changed | closed | hover | completion =>
    rw [provider_step_of_ne_setUp files session (by simp)]
    exact present

theorem provider_run_of_some {session : Session} {provider : Provider}
    (present : session.provider = some provider) (calls : List (Files × Call)) :
    (session.run calls).provider = some provider := by
  induction calls generalizing session with
  | nil => exact present
  | cons entry rest ih =>
    obtain ⟨files, call⟩ := entry
    exact ih (provider_step_of_some present files call)

theorem FirstStart.cons {entry : Files × Call} (idle : ¬Starts entry)
    {calls : List (Files × Call)} {found : Option (Files × Option Json)}
    (first : FirstStart calls found) : FirstStart (entry :: calls) found := by
  cases found with
  | none => exact List.forall_mem_cons.mpr ⟨idle, first⟩
  | some start =>
    obtain ⟨before, after, rfl, idleBefore, starts⟩ := first
    exact ⟨entry :: before, after, rfl, List.forall_mem_cons.mpr ⟨idle, idleBefore⟩, starts⟩

/-- The first start that succeeds is the first whose options fit and whose file gives symbols. -/
theorem firstStart_firstSetUp? {session : Session} (fresh : session.provider = none)
    (calls : List (Files × Call)) : FirstStart calls (session.firstSetUp? calls) := by
  fun_induction firstSetUp? session calls with
  | case1 => exact fun _ member => absurd member List.not_mem_nil
  | case2 session files options rest succeeded =>
    exact ⟨[], rest, rfl, fun _ member => absurd member List.not_mem_nil,
      (isOk_setUp_iff fresh files options).mp succeeded⟩
  | case3 session files options rest failed ih =>
    have same := setUp_of_refused (Bool.eq_false_iff.mpr failed)
    have idle := mt (isOk_setUp_iff fresh files options).mpr failed
    exact (ih (by rw [same]; exact fresh)).cons idle
  | case4 session files call rest other ih =>
    have still := (provider_step_of_ne_setUp files session other).trans fresh
    exact (ih still).cons (not_starts_of_ne_setUp files other)

/-- What a run has set up is what the first start that succeeded asked for. -/
theorem provides_run {session : Session} (fresh : session.provider = none)
    (calls : List (Files × Call)) :
    match session.firstSetUp? calls with
    | none => (session.run calls).provider = none
    | some (files, options) =>
      ∃ provider, (session.run calls).provider = some provider ∧
        Provides files options provider := by
  fun_induction firstSetUp? session calls with
  | case1 => exact fresh
  | case2 session files options rest succeeded =>
    obtain ⟨fit, works⟩ := (isOk_setUp_iff fresh files options).mp succeeded
    obtain ⟨provider, provides, result⟩ := setUp_of_not_fileFails fit fresh works
    refine ⟨provider, ?_, provides⟩
    rw [run_cons, step, result]
    exact provider_run_of_some rfl rest
  | case3 session files options rest failed ih =>
    have same := setUp_of_refused (Bool.eq_false_iff.mpr failed)
    exact ih (by rw [same]; exact fresh)
  | case4 session files call rest other ih =>
    exact ih ((provider_step_of_ne_setUp files session other).trans fresh)

/-- The start of a session has four outcomes. Options without the shape of settings are refused,
in every session. Otherwise nothing happens, and no file counts, if tooltips are set up already.
Otherwise a file that gives no symbols is refused. Otherwise tooltips are set up, and nothing else
changes. What is set up in a session that was reached is what the first start that succeeded asked
for. A start that fails leaves no trace, and one that succeeds has tooltips set up for good. -/
theorem setUp_outcomes (calls : List (Files × Call)) (files : Files) (options : Option Json) :
    let session := start.run calls
    let after := (session.step files (.setUp options)).1
    let answer := (session.step files (.setUp options)).2
    (¬OptionsFit options →
      after = session ∧ ∃ refusal, answer = .refused refusal ∧ refusal.code = -32602) ∧
    (OptionsFit options → session.provider.isSome = true →
      after = session ∧ answer = .ok .capabilities ∧
        ∀ others, session.step others (.setUp options) = (after, answer)) ∧
    (OptionsFit options → session.provider = none → FileFails files options →
      after = session ∧ ∃ refusal, answer = .refused refusal ∧ refusal.code = -32603) ∧
    (OptionsFit options → session.provider = none → ¬FileFails files options →
      answer = .ok .capabilities ∧ ∃ provider, Provides files options provider ∧
        after = { session with provider := some provider }) ∧
    (match start.firstSetUp? calls with
      | none => session.provider = none
      | some (filesThen, optionsThen) =>
        ∃ provider, session.provider = some provider ∧
          Provides filesThen optionsThen provider) ∧
    (answer.result.isOk = false →
      ∀ later, session.run ((files, .setUp options) :: later) = session.run later) ∧
    (answer.result.isOk = true →
      ∃ provider, ∀ later, (after.run later).provider = some provider) := by
  intro session after answer
  refine ⟨?_, ?_, ?_, ?_, provides_run rfl calls, ?_, ?_⟩
  · intro unfit
    obtain ⟨message, result⟩ := setUp_of_not_fit unfit files session
    exact ⟨congrArg Prod.fst result, .invalidParams message, congrArg Prod.snd result, rfl⟩
  · intro fit present
    have result (others : Files) := setUp_of_fit_of_provider_some fit present others
    exact ⟨congrArg Prod.fst (result files), congrArg Prod.snd (result files),
      fun others => (result others).trans (result files).symm⟩
  · intro fit fresh fails
    obtain ⟨message, result⟩ := setUp_of_fileFails fit fresh fails
    exact ⟨congrArg Prod.fst result, .internalError message, congrArg Prod.snd result, rfl⟩
  · intro fit fresh works
    obtain ⟨provider, provides, result⟩ := setUp_of_not_fileFails fit fresh works
    exact ⟨congrArg Prod.snd result, provider, provides, congrArg Prod.fst result⟩
  · intro failed later
    rw [run_cons, step, setUp_of_refused failed]
  · intro succeeded
    obtain ⟨provider, present⟩ := exists_provider_of_setUp succeeded
    exact ⟨provider, provider_run_of_some present⟩

/-- A value that a chart adds to the builtin symbols. -/
def hosts : Symbol :=
  ⟨"hosts", ".Values.hosts", "The hosts."⟩

/-- The symbol file of a chart. -/
def chartText : String :=
  "version = 1\n\n[[values]]\nname = \"hosts\"\nsignature = \".Values.hosts\"\n" ++
    "documentation = \"The hosts.\"\n"

/-- The folder of a chart. -/
def chart : Folder :=
  ⟨[(["charts", "symbols.toml"], .file chartText.toUTF8)]⟩

theorem ofText_chartText : SymbolTable.ofText chartText = .ok ⟨[], [hosts]⟩ := by
  have written : chartText = SymbolTable.writeFile ⟨[], [hosts]⟩ := by decide +kernel
  have file := SymbolTable.fileText_writeFile ⟨[], [hosts]⟩
  rw [← written] at file
  exact SymbolTable.ofText_of_fileText file

theorem load_chart : SymbolTable.load chart.read "charts/symbols.toml" = .ok ⟨[], [hosts]⟩ := by
  have found : chart.items.lookup ["charts", "symbols.toml"] = some (.file chartText.toUTF8) := rfl
  have loaded := Folder.load_of_file (Folder.filesEndPaths_singleton _ _) (by decide)
    (by decide +kernel) found ofText_chartText
  rw [show "/".intercalate ["charts", "symbols.toml"] = "charts/symbols.toml" from rfl] at loaded
  exact loaded

/-- The options that name the symbol file of a chart. -/
def chartOptions : Option Json :=
  some (.array [.string "gotmpl", .string "charts/symbols.toml"])

theorem starts_chart : Starts (chart.read, .setUp chartOptions) := by
  refine ⟨⟨⟨"gotmpl", rfl⟩, Or.inr ⟨"charts/symbols.toml", rfl⟩⟩, ?_⟩
  rintro ⟨path, fault, named, failed⟩
  cases named
  cases load_chart.symm.trans failed

theorem provides_chart_iff {provider : Provider} :
    Provides chart.read chartOptions provider ↔
      provider = ⟨.builtin ++ ⟨[], [hosts]⟩, "gotmpl"⟩ :=
  provides_iff_of_tableFor (tableFor_of_load rfl load_chart)

/-- Two starts that fail leave no trace on a third one, whether it names no file or the file of a
chart. -/
theorem setUp_outcomes_after_failures :
    let files : Files := fun _ => .error .notFound
    let calls : List (Files × Call) :=
      [(files, .setUp (some (.object [("language", .bool true)]))),
        (files, .setUp (some (.array [.string "gotmpl", .string "extra.toml"])))]
    let session := start.run calls
    session.provider = none ∧
      (session.step files (.setUp (some (.array [.string "gotmpl"])))).1.provider =
        some ⟨.builtin, "gotmpl"⟩ ∧
      (session.step chart.read (.setUp chartOptions)).1.provider =
        some ⟨⟨SymbolTable.builtin.functions, SymbolTable.builtin.values ++ [hosts]⟩, "gotmpl"⟩ := by
  intro files calls session
  have fresh : session.provider = none := rfl
  refine ⟨fresh, ?_, ?_⟩
  · have works : ¬FileFails files (some (.array [.string "gotmpl"])) := by
      rintro ⟨path, fault, named, _⟩
      cases named
    obtain ⟨_, _, _, loads, _⟩ := setUp_outcomes calls files (some (.array [.string "gotmpl"]))
    obtain ⟨_, provider, provides, result⟩ := loads ⟨"gotmpl", rfl⟩ fresh works
    have builtin : provider = ⟨.builtin, "gotmpl"⟩ := (provides_iff_of_tableFor rfl).mp provides
    rw [result, builtin]
  · obtain ⟨fit, works⟩ := starts_chart
    obtain ⟨_, _, _, loads, _⟩ := setUp_outcomes calls chart.read chartOptions
    obtain ⟨_, provider, provides, result⟩ := loads fit fresh works
    have extended : provider = ⟨⟨SymbolTable.builtin.functions ++ [],
        SymbolTable.builtin.values ++ [hosts]⟩, "gotmpl"⟩ := provides_chart_iff.mp provides
    rw [result, extended, List.append_nil]

end TemplateHover.Session
