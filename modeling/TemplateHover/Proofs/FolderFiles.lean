import TemplateHover.Folder

namespace TemplateHover.Folder

/-- A name that leads from a folder to what has that name in it. -/
structure IsPlain (name : String) : Prop where
  nonempty : name ≠ ""
  notSame : name ≠ "."
  notAbove : name ≠ ".."
  unslashed : '/' ∉ name.toList

instance (name : String) : Decidable (IsPlain name) :=
  decidable_of_iff (name ≠ "" ∧ name ≠ "." ∧ name ≠ ".." ∧ '/' ∉ name.toList)
    ⟨fun ⟨nonempty, notSame, notAbove, unslashed⟩ => ⟨nonempty, notSame, notAbove, unslashed⟩,
      fun plain => ⟨plain.nonempty, plain.notSame, plain.notAbove, plain.unslashed⟩⟩

/-- Nothing stands below a file. -/
def FilesEndPaths (folder : Folder) : Prop :=
  ∀ names bytes, folder.items.lookup names = some (.file bytes) →
    ∀ entry ∈ folder.items, names <+: entry.1 → entry.1 = names

theorem IsPlain.next?_inside {name : String} (plain : IsPlain name) (names : List String) :
    (Place.inside names).next? name = some (.inside (names ++ [name])) := by
  unfold Place.next?
  split
  · exact absurd rfl plain.nonempty
  · exact absurd rfl plain.notSame
  · contradiction
  · contradiction
  · exact absurd rfl plain.notAbove
  · rename_i same _ _ _
    cases same
    rfl

theorem parts_intercalate {names : List String} (nonempty : names ≠ [])
    (plain : ∀ name ∈ names, IsPlain name) : parts ("/".intercalate names) = names := by
  have unslashed : ∀ chars ∈ names.map String.toList, '/' ∉ chars := by
    intro chars listed
    obtain ⟨name, member, rfl⟩ := List.mem_map.mp listed
    exact (plain name member).unslashed
  have cut := List.splitOn_intercalate '/' unslashed (by simpa using nonempty)
  rw [parts, String.toList_intercalate, show "/".toList = ['/'] from rfl, cut, List.map_map]
  simp

/-- Plain names lead inwards as long as what each of them is looked up in is a folder. -/
theorem walk_inside {folder : Folder} {names before : List String}
    (plain : ∀ name ∈ names, IsPlain name)
    (through : ∀ passed left, names = passed ++ left → left ≠ [] →
      folder.item? (before ++ passed) = some .folder) :
    folder.walk (.inside before) names = .ok (.inside (before ++ names)) := by
  induction names generalizing before with
  | nil => rw [walk, List.append_nil]
  | cons name rest ih =>
    have here : folder.enter (.inside before) = .ok () := by
      have passed := through [] (name :: rest) rfl (by simp)
      rw [List.append_nil] at passed
      simp only [enter, passed]
    have throughRest : ∀ passed left, rest = passed ++ left → left ≠ [] →
        folder.item? (before ++ [name] ++ passed) = some .folder := by
      intro passed left same nonempty
      rw [List.append_assoc]
      exact through (name :: passed) left (congrArg (name :: ·) same) nonempty
    have behind := ih (fun other member => plain other (List.mem_cons_of_mem name member)) throughRest
    rw [List.append_assoc] at behind
    simp only [walk, here, (plain name List.mem_cons_self).next?_inside before]
    exact behind

/-- The path of plain names reads what stands at these names. -/
theorem read_intercalate {folder : Folder} {names : List String} (nonempty : names ≠ [])
    (plain : ∀ name ∈ names, IsPlain name)
    (through : ∀ passed left, names = passed ++ left → left ≠ [] →
      folder.item? passed = some .folder) :
    folder.read ("/".intercalate names) =
      match folder.item? names with
      | none => .error .notFound
      | some .folder => .error .isDirectory
      | some (.file bytes) =>
        match String.fromUTF8? bytes with
        | none => .error .notText
        | some text => .ok text := by
  have cut := parts_intercalate nonempty plain
  have named : ("/".intercalate names).isEmpty = false := by
    rw [String.isEmpty_eq_false_iff]
    intro empty
    rw [empty] at cut
    have first := (plain "" (cut ▸ List.mem_singleton.mpr rfl)).nonempty
    exact first rfl
  have within : names.head? ≠ some "" := by
    intro first
    exact (plain "" (List.mem_of_head? first)).nonempty rfl
  have walked : folder.walk (.inside []) names = .ok (.inside names) :=
    walk_inside plain through
  simp only [read, named, cut, if_neg within, walked]
  rfl

theorem FilesEndPaths.item?_of_prefix {folder : Folder} (endPaths : folder.FilesEndPaths)
    {names front : List String} {item : FolderItem} (member : (names, item) ∈ folder.items)
    (shorter : front <+: names) (proper : front ≠ names) :
    folder.item? front = some .folder := by
  unfold item?
  split
  · rfl
  · cases found : folder.items.lookup front with
    | none =>
      have below : (folder.items.any fun entry => front.isPrefixOf entry.1) = true :=
        List.any_eq_true.mpr ⟨_, member, List.isPrefixOf_iff_prefix.mpr shorter⟩
      exact if_pos below
    | some entry =>
      cases entry with
      | folder => rfl
      | file bytes => exact absurd (endPaths front bytes found _ member shorter).symm proper

theorem mem_of_lookup {folder : Folder} {names : List String} {item : FolderItem}
    (found : folder.items.lookup names = some item) : (names, item) ∈ folder.items := by
  obtain ⟨before, after, split, _⟩ := List.lookup_eq_some_iff.mp found
  rw [split]
  exact List.mem_append_right before List.mem_cons_self

theorem filesEndPaths_singleton (names : List String) (item : FolderItem) :
    FilesEndPaths ⟨[(names, item)]⟩ := by
  intro front bytes found entry member _
  cases List.mem_singleton.mp (mem_of_lookup found)
  cases List.mem_singleton.mp member
  rfl

/-- In a folder whose files have nothing below them, a file is read by the path of its names. -/
theorem read_of_file {folder : Folder} (endPaths : folder.FilesEndPaths) {names : List String}
    (nonempty : names ≠ []) (plain : ∀ name ∈ names, IsPlain name) {bytes : ByteArray}
    (found : folder.items.lookup names = some (.file bytes)) {text : String}
    (decoded : String.fromUTF8? bytes = some text) :
    folder.read ("/".intercalate names) = .ok text := by
  have item : folder.item? names = some (.file bytes) := by
    rw [item?, if_neg (by simpa using nonempty), found]
  rw [read_intercalate nonempty plain, item]
  · simp only [decoded]
  · intro passed left same remains
    refine endPaths.item?_of_prefix (mem_of_lookup found) ⟨left, same.symm⟩ ?_
    rintro rfl
    exact remains (List.self_eq_append_right.mp same)

/-- Such a file, if its text gives a symbol table, is loaded as that table. -/
theorem load_of_file {folder : Folder} (endPaths : folder.FilesEndPaths) {names : List String}
    (nonempty : names ≠ []) (plain : ∀ name ∈ names, IsPlain name) {text : String}
    (found : folder.items.lookup names = some (.file text.toUTF8)) {table : SymbolTable}
    (given : SymbolTable.ofText text = .ok table) :
    SymbolTable.load folder.read ("/".intercalate names) = .ok table := by
  have decoded : String.fromUTF8? text.toUTF8 = some text := dif_pos text.isValidUTF8
  have read := read_of_file endPaths nonempty plain found decoded
  simp only [SymbolTable.load, read, given]

end TemplateHover.Folder
