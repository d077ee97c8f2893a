import HistoryExpansion.HistoryFile

/-!
# Stores

An engine keeps its records in memory alone or in a history file as well. A `Workspace` is a disk
together with the store that is kept beside it or on it, and `Workspace.backend` is the engine's
view of both: the records are fetched from memory, an append may write the file, and commands are
run on the disk.
-/

namespace HistoryExpansion

/-- Where records are kept. -/
inductive Store where
  /-- In memory alone. -/
  | inMemory (archive : Archive)
  /-- In a file too. -/
  | inFile (file : HistoryFile)

namespace Store

/-- The records that are in memory. -/
def archive : Store → Archive
  | inMemory archive => archive
  | inFile file => file.archive

/-- Opens the store in the file at a path. Without a path the store is in memory and starts
empty. -/
def openAt (disk : Disk) (path : Option String) (window : Nat) : Except Failure Store :=
  match path with
  | none => .ok (.inMemory (Archive.empty window))
  | some path => (HistoryFile.openAt disk path window).map .inFile

/-- Adds a command to a session's record. -/
def append (store : Store) (session command : String) (disk : Disk) :
    Except Failure Unit × Store × Disk :=
  match store with
  | inMemory archive => (.ok (), .inMemory (archive.push session command), disk)
  | inFile file =>
    let (result, file, disk) := file.append session command disk
    (result, .inFile file, disk)

end Store

/-- A store and the disk beside it. -/
structure Workspace where
  /-- The records. -/
  store : Store
  /-- The disk that commands work on and that a history file lies on. -/
  disk : Disk

/-- The services of a workspace, given how a command is run on a disk. -/
def Workspace.backend (run : (session command : String) → Action Disk Output) :
    Backend Workspace where
  fetch session workspace := (.ok (workspace.store.archive.get? session), workspace)
  append session command workspace :=
    let (result, store, disk) := workspace.store.append session command workspace.disk
    (result, ⟨store, disk⟩)
  run session command workspace :=
    let (result, disk) := run session command workspace.disk
    (result, { workspace with disk })

end HistoryExpansion
