import TemplateHover.Session.Basic

namespace TemplateHover

/-- The text that a value is. -/
def Json.text? : Json → Option String
  | .string text => some text
  | _ => none

namespace Settings

/-- A value that names a language. -/
def IsLanguage (value : Json) : Prop :=
  ∃ language, value = .string language

/-- A value that names a file, or null for none. -/
def IsFile (value : Json) : Prop :=
  value = .null ∨ ∃ path, value = .string path

/-- A member that may stand in settings. Members of other names have no meaning. -/
def MemberFits (member : String × Json) : Prop :=
  (member.1 = "language" → IsLanguage member.2) ∧ (member.1 = "symbols" → IsFile member.2)

/-- A value with the shape of settings: an object whose members fit, or a list of at most the two
settings in their order. -/
def Fits : Json → Prop
  | .object members => ∀ member ∈ members, MemberFits member
  | .array [] => True
  | .array [language] => IsLanguage language
  | .array [language, file] => IsLanguage language ∧ IsFile file
  | _ => False

/-- The value that an object gives a name. Of two members with one name the later one counts. -/
def memberValue? (members : List (String × Json)) (name : String) : Option Json :=
  members.reverse.lookup name

/-- The language that a value chooses, or the default one. -/
def chosenLanguage : Json → String
  | .object members => ((memberValue? members "language").bind Json.text?).getD defaultLanguage
  | .array (language :: _) => language.text?.getD defaultLanguage
  | _ => defaultLanguage

/-- The file that a value chooses. -/
def chosenFile? : Json → Option String
  | .object members => (memberValue? members "symbols").bind Json.text?
  | .array (_ :: file :: _) => file.text?
  | _ => none

theorem withLanguage_of_isLanguage {value : Json} (fits : IsLanguage value) (settings : Settings) :
    settings.withLanguage value =
      .ok { settings with language := value.text?.getD defaultLanguage } := by
  obtain ⟨language, rfl⟩ := fits
  rfl

theorem isLanguage_of_withLanguage {settings result : Settings} {value : Json}
    (read : settings.withLanguage value = .ok result) : IsLanguage value := by
  cases value with
  | string language => exact ⟨language, rfl⟩
  | null | bool | number | array | object => cases read

theorem withSymbols_of_isFile {value : Json} (fits : IsFile value) (settings : Settings) :
    settings.withSymbols value = .ok { settings with symbols := value.text? } := by
  obtain rfl | ⟨path, rfl⟩ := fits <;> rfl

theorem isFile_of_withSymbols {settings result : Settings} {value : Json}
    (read : settings.withSymbols value = .ok result) : IsFile value := by
  cases value with
  | null => exact Or.inl rfl
  | string path => exact Or.inr ⟨path, rfl⟩
  | bool | number | array | object => cases read

theorem withMember_of_fits {name : String} {value : Json} (fits : MemberFits (name, value))
    (settings : Settings) :
    settings.withMember (name, value) = .ok
      ⟨if name = "language" then value.text?.getD defaultLanguage else settings.language,
        if name = "symbols" then value.text? else settings.symbols⟩ := by
  unfold withMember
  split
  · rename_i same
    cases same
    rw [withLanguage_of_isLanguage (fits.1 rfl)]
    rfl
  · rename_i same
    cases same
    rw [withSymbols_of_isFile (fits.2 rfl)]
    rfl
  · rename_i notLanguage notSymbols
    have other : name ≠ "language" := fun same => notLanguage value (by rw [same])
    have another : name ≠ "symbols" := fun same => notSymbols value (by rw [same])
    rw [if_neg other, if_neg another]

theorem memberFits_of_withMember {settings result : Settings} {member : String × Json}
    (read : settings.withMember member = .ok result) : MemberFits member := by
  unfold withMember at read
  split at read
  · exact ⟨fun _ => isLanguage_of_withLanguage read, by simp⟩
  · exact ⟨by simp, fun _ => isFile_of_withSymbols read⟩
  · rename_i notLanguage notSymbols
    exact ⟨fun same => absurd (by rw [← same]) (notLanguage member.2),
      fun same => absurd (by rw [← same]) (notSymbols member.2)⟩

theorem memberValue?_cons (name other : String) (value : Json) (members : List (String × Json)) :
    memberValue? ((name, value) :: members) other =
      (memberValue? members other).or (if name = other then some value else none) := by
  unfold memberValue?
  rw [List.reverse_cons, List.lookup_append]
  by_cases same : name = other
  · simp [same]
  · have differ : (other == name) = false := beq_eq_false_iff_ne.mpr (Ne.symm same)
    rw [List.lookup_cons, differ, List.lookup_nil, if_neg same]

theorem foldlM_withMember_of_fits {members : List (String × Json)}
    (fits : ∀ member ∈ members, MemberFits member) (settings : Settings) :
    members.foldlM withMember settings = .ok
      ⟨match memberValue? members "language" with
        | none => settings.language
        | some value => value.text?.getD defaultLanguage,
        match memberValue? members "symbols" with
        | none => settings.symbols
        | some value => value.text?⟩ := by
  induction members generalizing settings with
  | nil => rfl
  | cons member rest ih =>
    obtain ⟨name, value⟩ := member
    obtain ⟨first, later⟩ := List.forall_mem_cons.mp fits
    rw [List.foldlM_cons, withMember_of_fits first]
    refine (ih later _).trans ?_
    -- a later member of the same name hides this one
    rw [memberValue?_cons, memberValue?_cons]
    congr 2
    · cases memberValue? rest "language" with
      | some last => rfl
      | none => by_cases same : name = "language" <;> simp [same]
    · cases memberValue? rest "symbols" with
      | some last => rfl
      | none => by_cases same : name = "symbols" <;> simp [same]

theorem exists_ok_of_bind {ε α β : Type} {first : Except ε α} {rest : α → Except ε β} {result : β}
    (done : (first >>= rest) = .ok result) : ∃ value, first = .ok value ∧ rest value = .ok result := by
  cases first with
  | error fault => cases done
  | ok value => exact ⟨value, rfl, done⟩

theorem fits_of_foldlM_withMember {members : List (String × Json)} {settings result : Settings}
    (read : members.foldlM withMember settings = .ok result) :
    ∀ member ∈ members, MemberFits member := by
  induction members generalizing settings with
  | nil => simp
  | cons member rest ih =>
    rw [List.foldlM_cons] at read
    obtain ⟨next, first, later⟩ := exists_ok_of_bind read
    exact List.forall_mem_cons.mpr ⟨memberFits_of_withMember first, ih later⟩

/-- A value with the shape of settings gives those that it chooses. -/
theorem ofJson_of_fits {json : Json} (fits : Fits json) :
    ofJson json = .ok ⟨chosenLanguage json, chosenFile? json⟩ := by
  unfold Fits at fits
  split at fits
  · rename_i members
    refine (foldlM_withMember_of_fits fits default).trans ?_
    simp only [chosenLanguage, chosenFile?]
    cases memberValue? members "language" <;> cases memberValue? members "symbols" <;> rfl
  · rfl
  · exact withLanguage_of_isLanguage fits default
  · rename_i language file
    simp only [ofJson, withItems, withLanguage_of_isLanguage fits.1, withSymbols_of_isFile fits.2]
    rfl
  · exact fits.elim

/-- Nothing but a value with the shape of settings gives any. -/
theorem fits_of_ofJson {json : Json} {settings : Settings} (read : ofJson json = .ok settings) :
    Fits json := by
  unfold ofJson at read
  split at read
  · exact fits_of_foldlM_withMember read
  · rename_i items
    unfold withItems at read
    split at read
    · trivial
    · exact isLanguage_of_withLanguage read
    · rename_i language file rest
      obtain ⟨named, first, read⟩ := exists_ok_of_bind read
      obtain ⟨complete, second, read⟩ := exists_ok_of_bind read
      cases rest with
      | nil => exact ⟨isLanguage_of_withLanguage first, isFile_of_withSymbols second⟩
      | cons extra more => cases read
  · cases read

end Settings

end TemplateHover
