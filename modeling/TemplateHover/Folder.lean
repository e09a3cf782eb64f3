import TemplateHover.Symbol.File

namespace TemplateHover

/-- What a name in a folder stands for. -/
inductive FolderItem where
  | file (bytes : ByteArray)
  | folder

/-- The names in a folder that is kept in memory. A name of several parts stands in folders of its
own. -/
structure Folder where
  items : List (List String × FolderItem)

namespace Folder

/-- Where a path has led so far. Nothing is known of the outside but that it has folders. -/
inductive Place where
  | inside (names : List String)
  | outside

/-- The parts of a path. -/
def parts (path : String) : List String :=
  (path.toList.splitOn '/').map String.ofList

/-- The item at a list of names. A list that leads to an item passes through folders. -/
def item? (folder : Folder) (names : List String) : Option FolderItem :=
  if names.isEmpty then some .folder
  else
    match folder.items.lookup names with
    | some item => some item
    | none =>
      if folder.items.any fun (path, _) => names.isPrefixOf path then some .folder else none

/-- Enters the folder at a place. -/
def enter (folder : Folder) : Place → Except ReadFault Unit
  | .outside => .ok ()
  | .inside names =>
    match folder.item? names with
    | none => .error .notFound
    | some .folder => .ok ()
    | some (.file _) => .error .notDirectory

/-- The place that one more part of a path leads to. -/
def Place.next? : Place → String → Option Place
  | place, "" => some place
  | place, "." => some place
  | .outside, ".." => some .outside
  | .outside, _ => none
  | .inside names, ".." => some (if names.isEmpty then .outside else .inside names.dropLast)
  | .inside names, name => some (.inside (names ++ [name]))

/-- The place that the parts of a path lead to. All but the last part are folders. -/
def walk (folder : Folder) : Place → List String → Except ReadFault Place
  | place, [] => .ok place
  | place, part :: rest => do
    folder.enter place
    match place.next? part with
    | none => .error .notFound
    | some place => walk folder place rest

/-- The text of the file at a path. A path that starts with a slash starts outside. -/
def read (folder : Folder) : Files := fun path =>
  if path.isEmpty then .error .notFound
  else do
    let start := if (parts path).head? = some "" then .outside else .inside []
    let place ← folder.walk start (parts path)
    match place with
    | .outside => .error .isDirectory
    | .inside names =>
      match folder.item? names with
      | none => .error .notFound
      | some .folder => .error .isDirectory
      | some (.file bytes) =>
        match String.fromUTF8? bytes with
        | none => .error .notText
        | some text => .ok text

end Folder

end TemplateHover
