import TemplateHover.Session.Documents

namespace TemplateHover

theorem Uri.text_injective {first second : Uri} (same : first.text = second.text) :
    first = second := by
  cases first
  cases second
  exact congrArg Uri.mk same

theorem Uri.lt_of_ne_of_not_lt {first second : Uri} (different : first ≠ second)
    (notBefore : ¬first.text < second.text) : second.text < first.text := by
  apply String.not_le.mp
  intro atMost
  exact different (Uri.text_injective (String.le_antisymm atMost (String.not_lt.mp notBefore)))

namespace Documents

@[simp] theorem get?_nil (uri : Uri) : get? [] uri = none :=
  rfl

theorem get?_cons (key : Uri) (document : Document) (rest : Documents) (uri : Uri) :
    get? ((key, document) :: rest) uri = if uri = key then some document else get? rest uri := by
  by_cases same : uri = key
  · subst same
    simp [get?]
  · have differ : (uri == key) = false := beq_eq_false_iff_ne.mpr same
    rw [get?, List.lookup_cons, differ, if_neg same]
    rfl

/-- A stored document is found under its own URI, and no other URI notices. This needs no order of
the entries. -/
theorem get?_insert (documents : Documents) (key uri : Uri) (document : Document) :
    get? (insert key document documents) uri =
      if uri = key then some document else get? documents uri := by
  induction documents with
  | nil => rw [insert, get?_cons]
  | cons entry rest ih =>
    obtain ⟨other, old⟩ := entry
    unfold insert
    by_cases same : key = other
    · subst same
      rw [if_pos rfl, get?_cons, get?_cons]
      split <;> rfl
    · rw [if_neg same]
      by_cases before : key.text < other.text
      · rw [if_pos before, get?_cons]
      · rw [if_neg before, get?_cons, ih, get?_cons]
        by_cases atOther : uri = other
        · have away : uri ≠ key := fun atKey => same (atKey.symm.trans atOther)
          rw [if_pos atOther, if_neg away, if_pos atOther]
        · rw [if_neg atOther, if_neg atOther]

theorem get?_erase (documents : Documents) (key uri : Uri) :
    get? (erase key documents) uri = if uri = key then none else get? documents uri := by
  induction documents with
  | nil => simp [erase]
  | cons entry rest ih =>
    obtain ⟨other, old⟩ := entry
    unfold erase at ih ⊢
    by_cases same : other = key
    · subst same
      rw [List.filter_cons_of_neg (by simp), ih, get?_cons]
      split <;> rfl
    · rw [List.filter_cons_of_pos (by simpa using same), get?_cons, get?_cons, ih]
      by_cases atOther : uri = other
      · have away : uri ≠ key := fun atKey => same (atOther.symm.trans atKey)
        rw [if_pos atOther, if_neg away, if_pos atOther]
      · rw [if_neg atOther, if_neg atOther]

/-- The entries stand in the order of their URIs, and no URI stands twice. -/
def Sorted (documents : Documents) : Prop :=
  documents.Pairwise fun first second => first.1.text < second.1.text

theorem sorted_nil : Sorted [] :=
  List.Pairwise.nil

theorem mem_insert {documents : Documents} {key : Uri} {document : Document}
    {entry : Uri × Document} (member : entry ∈ insert key document documents) :
    entry = (key, document) ∨ entry ∈ documents := by
  induction documents with
  | nil => exact Or.inl (List.mem_singleton.mp member)
  | cons first rest ih =>
    obtain ⟨other, old⟩ := first
    unfold insert at member
    split at member
    · rcases List.mem_cons.mp member with new | kept
      · exact Or.inl new
      · exact Or.inr (List.mem_cons_of_mem _ kept)
    · split at member
      · exact List.mem_cons.mp member
      · rcases List.mem_cons.mp member with head | tail
        · exact Or.inr (head ▸ List.mem_cons_self)
        · exact (ih tail).imp_right (List.mem_cons_of_mem _)

theorem Sorted.insert {documents : Documents} (sorted : Sorted documents) (key : Uri)
    (document : Document) : Sorted (documents.insert key document) := by
  induction documents with
  | nil => exact List.pairwise_singleton _ _
  | cons entry rest ih =>
    obtain ⟨other, old⟩ := entry
    obtain ⟨above, tail⟩ := List.pairwise_cons.mp sorted
    unfold Documents.insert
    by_cases same : key = other
    · subst same
      rw [if_pos rfl]
      exact List.pairwise_cons.mpr ⟨above, tail⟩
    · rw [if_neg same]
      by_cases before : key.text < other.text
      · rw [if_pos before]
        refine List.pairwise_cons.mpr ⟨?_, sorted⟩
        intro later member
        rcases List.mem_cons.mp member with head | kept
        · rw [head]
          exact before
        · exact String.lt_trans before (above later kept)
      · rw [if_neg before]
        refine List.pairwise_cons.mpr ⟨?_, ih tail⟩
        intro later member
        rcases mem_insert member with new | kept
        · rw [new]
          exact Uri.lt_of_ne_of_not_lt same before
        · exact above later kept

theorem Sorted.erase {documents : Documents} (sorted : Sorted documents) (key : Uri) :
    Sorted (documents.erase key) :=
  List.Pairwise.filter _ sorted

theorem get?_eq_none_of_before {documents : Documents} {uri : Uri}
    (before : ∀ entry ∈ documents, uri.text < entry.1.text) : get? documents uri = none := by
  induction documents with
  | nil => rfl
  | cons entry rest ih =>
    obtain ⟨other, old⟩ := entry
    have away : uri ≠ other := by
      intro same
      have ahead := before (other, old) List.mem_cons_self
      rw [same] at ahead
      exact String.lt_irrefl _ ahead
    rw [get?_cons, if_neg away]
    exact ih fun entry member => before entry (List.mem_cons_of_mem _ member)

theorem Sorted.first_le_of_found {key : Uri} {document : Document} {rest : Documents}
    (sorted : Sorted ((key, document) :: rest)) {uri : Uri}
    (found : get? ((key, document) :: rest) uri ≠ none) : key.text ≤ uri.text := by
  apply String.not_lt.mp
  intro before
  apply found
  apply get?_eq_none_of_before
  intro entry member
  rcases List.mem_cons.mp member with head | kept
  · rw [head]
    exact before
  · exact String.lt_trans before ((List.pairwise_cons.mp sorted).1 entry kept)

/-- Sorted entries are determined by what is found among them. -/
theorem Sorted.ext {first second : Documents} (sortedFirst : Sorted first)
    (sortedSecond : Sorted second) (same : ∀ uri, get? first uri = get? second uri) :
    first = second := by
  induction first generalizing second with
  | nil =>
    cases second with
    | nil => rfl
    | cons entry rest =>
      have found := same entry.1
      rw [get?_nil, get?_cons, if_pos rfl] at found
      cases found
  | cons entry rest ih =>
    obtain ⟨key, document⟩ := entry
    have found := same key
    rw [get?_cons, if_pos rfl] at found
    cases second with
    | nil => cases found
    | cons entry' rest' =>
      obtain ⟨key', document'⟩ := entry'
      obtain ⟨above, tail⟩ := List.pairwise_cons.mp sortedFirst
      obtain ⟨above', tail'⟩ := List.pairwise_cons.mp sortedSecond
      have found' := same key'
      rw [get?_cons key', if_pos rfl] at found'
      -- each first entry is found on the other side, so neither stands before the other
      have upper := sortedSecond.first_le_of_found (by rw [← found]; simp)
      have lower := sortedFirst.first_le_of_found (by rw [found']; simp)
      have sameKey : key = key' := Uri.text_injective (String.le_antisymm lower upper)
      subst sameKey
      rw [get?_cons, if_pos rfl] at found
      cases found
      have sameRest : ∀ uri, get? rest uri = get? rest' uri := by
        intro uri
        by_cases atKey : uri = key
        · rw [atKey, get?_eq_none_of_before above, get?_eq_none_of_before above']
        · have elsewhere := same uri
          rwa [get?_cons, get?_cons, if_neg atKey, if_neg atKey] at elsewhere
      rw [ih tail tail' sameRest]

end Documents

end TemplateHover
