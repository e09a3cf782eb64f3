import TemplateHover.Session.Basic

namespace TemplateHover.Session

/-- All that the start of a session can do: refuse its options, change nothing because tooltips
are set up already, fail to load the symbols, or set up tooltips. -/
theorem setUp_cases (files : Files) (options : Option Json) (session : Session) :
    (∃ fault, settingsOf options = .error fault ∧
      session.setUp files options = (session, .refused (.invalidParams fault.message))) ∨
    (∃ settings provider, settingsOf options = .ok settings ∧ session.provider = some provider ∧
      session.setUp files options = (session, .ok .capabilities)) ∨
    (∃ settings fault, settingsOf options = .ok settings ∧ session.provider = none ∧
      tableFor files settings = .error fault ∧
      session.setUp files options = (session,
        .refused (.internalError ("Failed to load symbols: " ++ joinAccount fault.account)))) ∨
    ∃ settings table, settingsOf options = .ok settings ∧ session.provider = none ∧
      tableFor files settings = .ok table ∧
      session.setUp files options =
        ({ session with provider := some ⟨table, settings.language⟩ }, .ok .capabilities) := by
  unfold setUp activate
  cases read : settingsOf options with
  | error fault => exact Or.inl ⟨fault, rfl, rfl⟩
  | ok settings =>
    right
    cases present : session.provider with
    | some provider => exact Or.inl ⟨settings, provider, rfl, rfl, rfl⟩
    | none =>
      right
      cases load : tableFor files settings with
      | error fault =>
        left
        refine ⟨settings, fault, rfl, rfl, load, ?_⟩
        simp only [load]
      | ok table =>
        right
        refine ⟨settings, table, rfl, rfl, load, ?_⟩
        simp only [load]

theorem documents_setUp (files : Files) (options : Option Json) (session : Session) :
    (session.setUp files options).1.documents = session.documents := by
  obtain ⟨_, _, result⟩ | ⟨_, _, _, _, result⟩ | ⟨_, _, _, _, _, result⟩ |
    ⟨_, _, _, _, _, result⟩ := setUp_cases files options session <;> rw [result]

theorem setUp_of_provider_some {session : Session} {provider : Provider}
    (present : session.provider = some provider) (files : Files) (options : Option Json) :
    (session.setUp files options).1 = session := by
  obtain ⟨_, _, result⟩ | ⟨_, _, _, _, result⟩ | ⟨_, _, _, missing, _⟩ | ⟨_, _, _, missing, _⟩ :=
    setUp_cases files options session
  · rw [result]
  · rw [result]
  · cases missing.symm.trans present
  · cases missing.symm.trans present

theorem setUp_of_refused {files : Files} {options : Option Json} {session : Session}
    (failed : (session.setUp files options).2.result.isOk = false) :
    (session.setUp files options).1 = session := by
  obtain ⟨_, _, result⟩ | ⟨_, _, _, _, result⟩ | ⟨_, _, _, _, _, result⟩ |
    ⟨_, _, _, _, _, result⟩ := setUp_cases files options session
  · rw [result]
  · rw [result]
  · rw [result]
  · rw [result] at failed
    cases failed

theorem exists_provider_of_setUp {files : Files} {options : Option Json} {session : Session}
    (succeeded : (session.setUp files options).2.result.isOk = true) :
    ∃ provider, (session.setUp files options).1.provider = some provider := by
  obtain ⟨_, _, result⟩ | ⟨_, provider, _, present, result⟩ | ⟨_, _, _, _, _, result⟩ |
    ⟨_, _, _, _, _, result⟩ := setUp_cases files options session
  · rw [result] at succeeded
    cases succeeded
  · rw [result]
    exact ⟨provider, present⟩
  · rw [result] at succeeded
    cases succeeded
  · rw [result]
    exact ⟨_, rfl⟩

end TemplateHover.Session
