import Contracts.File.Basic

/-!
# Folders in memory

A folder that is known as a whole, and paths that are looked up in it. A path may leave the
folder upwards; there it finds folders, but nothing by name.
-/

namespace Contracts

/-- What a name in a folder stands for. -/
inductive FolderItem where
  | file (bytes : ByteArray)
  | folder

/-- A folder: what stands at each path below it, a path being the names on the way. A file may
stand for its folders too. -/
structure Folder where
  items : List (List String × FolderItem) := []

/-- Where a path has led so far. -/
inductive Location where
  /-- Above the folder. -/
  | outside
  /-- At a path below the folder. -/
  | inside (path : List String)

namespace Folder

/-- What stands at a path below the folder. -/
def item? (folder : Folder) (path : List String) : Option FolderItem :=
  if path.isEmpty then some .folder
  else match folder.items.find? (·.1 == path) with
    | some (_, item) => some item
    | none =>
      if folder.items.any fun (known, _) => path.isPrefixOf known then some .folder else none

/-- Go one name further. -/
def step (folder : Folder) (place : Location) (name : String) : Except ReadFault Location :=
  match place with
  | .outside => if ["", ".", ".."].contains name then .ok .outside else .error .notFound
  | .inside path =>
    match folder.item? path with
    | none => .error .notFound
    | some (.file _) => .error .notFolder
    | some .folder =>
      if name = "" ∨ name = "." then .ok place
      else if name = ".." then
        if path.isEmpty then .ok .outside else .ok (.inside path.dropLast)
      else if 255 < name.utf8ByteSize then .error .tooLong
      else .ok (.inside (path ++ [name]))

/-- The bytes of the file at a place. -/
def bytesAt (folder : Folder) : Location → Except ReadFault ByteArray
  | .outside => .error .isFolder
  | .inside path =>
    match folder.item? path with
    | none => .error .notFound
    | some .folder => .error .isFolder
    | some (.file bytes) => .ok bytes

/-- The bytes of the file that a path leads to. -/
def bytes (folder : Folder) (path : String) : Except ReadFault ByteArray := do
  if path.toList.contains '\x00' then .error .zeroInPath
  else if path.isEmpty then .error .notFound
  else if 4096 ≤ path.utf8ByteSize then .error .tooLong
  else
    let start := if path.toList.head? = some '/' then Location.outside else .inside []
    let place ← (path.splitOn "/").foldlM folder.step start
    folder.bytesAt place

/-- Read the file that a path leads to. -/
def read (folder : Folder) : FileReader := fun path => do
  match String.fromUTF8? (← folder.bytes path) with
  | some text => .ok text
  | none => .error .notText

end Folder

end Contracts
