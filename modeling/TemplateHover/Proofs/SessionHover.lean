import TemplateHover.Proofs.SetUpOnce

namespace TemplateHover.Session

theorem hover_of_provider_some {session : Session} {provider : Provider}
    (present : session.provider = some provider) (uri : Uri) (position : Position) :
    match session.documents.get? uri with
    | none => ∃ message, session.hover uri position = .logged .log message
    | some document =>
      match (provider.resolve document position).tooltip? with
      | some tooltip => session.hover uri position = .ok (.tooltip tooltip)
      | none => ∃ message, session.hover uri position = .logged .log message := by
  unfold hover resolve
  rw [present]
  cases session.documents.get? uri with
  | none => exact ⟨_, rfl⟩
  | some document =>
    dsimp only
    cases provider.resolve document position with
    | found tooltip => rfl
    | unknownDocument | noWord | miss | plainValue | undeterminable => exact ⟨_, rfl⟩

/-- A question after any run leaves the session as it was. It is refused with one message if no
start succeeded, that is if no call of the run had options that fit and symbols that load. Otherwise
it is answered with the language of the first such call, with the builtin symbols and behind them
those of the file that it named, as the file was then, and with the document that the last effective
event of the URI left. -/
theorem hover_after_run (calls : List (Files × Call)) (files : Files) (uri : Uri)
    (position : Position) :
    let session := start.run calls
    let answer := (session.step files (.hover uri position)).2
    (session.step files (.hover uri position)).1 = session ∧
      session.documents.get? uri = lastDocument? uri (calls.map Prod.snd) ∧
      FirstStart calls (start.firstSetUp? calls) ∧
      match start.firstSetUp? calls with
      | none =>
        ∃ refusal message, answer = ⟨.error refusal, [⟨.error, message⟩]⟩ ∧ refusal.code = -32603
      | some (filesThen, options) =>
        ∃ provider, Provides filesThen options provider ∧
          match session.documents.get? uri with
          | none => ∃ message, answer = .logged .log message
          | some document =>
            match (provider.resolve document position).tooltip? with
            | some tooltip => answer = .ok (.tooltip tooltip)
            | none => ∃ message, answer = .logged .log message := by
  have fresh : start.provider = none := rfl
  refine ⟨rfl, get?_run_start calls uri, firstStart_firstSetUp? fresh calls, ?_⟩
  have provided := provides_run fresh calls
  cases first : start.firstSetUp? calls with
  | none =>
    rw [first] at provided
    refine ⟨.internalError "Internal error",
      "Failed to get hover: Hover provider not initialized", ?_, rfl⟩
    simp only [step, hover, provided]
  | some found =>
    obtain ⟨filesThen, options⟩ := found
    rw [first] at provided
    obtain ⟨provider, present, provides⟩ := provided
    exact ⟨provider, provides, hover_of_provider_some present uri position⟩

/-- A start at fault, a document that is opened before and changed behind the start with the symbols
of a chart, and a start for which the file is gone: the tooltip is that of the file. -/
theorem hover_after_run_chart :
    let gone : Files := fun _ => .error .notFound
    let uri : Uri := ⟨"file:///app.yaml"⟩
    let text := "app: \x7b\x7b .Values.hosts \x7d\x7d"
    let tooltip : Tooltip := ⟨"gotmpl", "\x7b\x7b .Values.hosts \x7d\x7d", "The hosts.",
      ⟨⟨0, 16⟩, ⟨0, 21⟩⟩⟩
    let calls : List (Files × Call) :=
      [(chart.read, .setUp (some (.object [("language", .bool true)]))),
        (chart.read, .opened uri 1 "app:"),
        (chart.read, .setUp chartOptions),
        (gone, .changed uri 2 [⟨none, text⟩]),
        (gone, .setUp (some (.array [.string "helm", .string "charts/symbols.toml"])))]
    ((start.run calls).step gone (.hover uri ⟨0, 18⟩)).2 = .ok (.tooltip tooltip) := by
  intro gone uri text tooltip calls
  have started : start.firstSetUp? calls = some (chart.read, chartOptions) := by
    rw [firstSetUp?, if_neg (by decide), firstSetUp?, firstSetUp?]
    · exact if_pos ((isOk_setUp_iff rfl chart.read chartOptions).mpr starts_chart)
    · intro options other
      cases other
  have hovered := hover_after_run calls gone uri ⟨0, 18⟩
  have present : (start.run calls).documents.get? uri = some ⟨text, 2⟩ :=
    hovered.2.1.trans (by decide +kernel)
  have shown : (Provider.resolve ⟨.builtin ++ ⟨[], [hosts]⟩, "gotmpl"⟩ ⟨text, 2⟩ ⟨0, 18⟩).tooltip? =
      some tooltip := by
    decide +kernel
  -- the start and the document go in before the cases are split: splitting would run the calls
  simp only [started, present] at hovered
  obtain ⟨-, -, -, provider, provides, answered⟩ := hovered
  rw [provides_chart_iff.mp provides] at answered
  simp only [shown] at answered
  exact answered

end TemplateHover.Session
