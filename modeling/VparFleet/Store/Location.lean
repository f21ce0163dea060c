import VparFleet.Directory
import VparFleet.Store.File

/-!
# Where a store is kept

A store is kept in a file. Connecting makes the directories on the way to the file and then the file
itself, unless something else is in the way. A store without a path is kept nowhere.

* `Directory.connect`: opens the store at a path.
-/

namespace VparFleet

/-- The fault of directories that could not be made. -/
def Store.noDirectory (cause : FileCause) : Fault :=
  ⟨.database, s!"failed to create db dir: {cause.detail}"⟩

/-- The refusal of a file that cannot be opened. -/
def Store.cannotOpen : StoreCause :=
  .refused 14 "unable to open database file"

/-- The refusal of a file that holds something else. -/
def Store.notStore : StoreCause :=
  .refused 26 "file is not a database"

/-- The store in the content of a file. An empty file is an empty store. -/
def Store.ofContent (bytes : List UInt8) : Outcome Store :=
  if bytes.isEmpty then .ok .empty
  else
    match (Text.Utf8.decodeStrict? bytes).bind ofFileText? with
    | some store => .ok store
    | none => .error notStore.fault

namespace Directory

/-- Writes a store to the file at a path. -/
def saveStore (directory : Directory) (path : String) (store : Store) : Directory :=
  if path.isEmpty then directory
  else directory.write (pathParts path) (Text.Utf8.encode store.fileText)

/-- Opens the store at a path: the store, and the directory afterwards. -/
def connect (directory : Directory) (path : String) : Outcome (Store × Directory) := do
  if path.isEmpty then return (.empty, directory)
  let parts := pathParts path
  match directory.obstacle? parts.dropLast with
  | some cause => throw (Store.noDirectory cause)
  | none =>
    if directory.isDirectory parts then throw Store.cannotOpen.fault
    let store ← Store.ofContent ((directory.content? parts).getD [])
    return (store, directory.saveStore path store)

end Directory

end VparFleet
