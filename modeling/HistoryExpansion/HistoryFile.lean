import HistoryExpansion.Backend
import HistoryExpansion.Disk.Change
import HistoryExpansion.Disk.Text
import HistoryExpansion.HistoryFile.Format

/-!
# History files

An archive that is kept in a file. Opening it reads the records that the file holds, if there is a
file; every append writes the whole file anew. The new content goes to a temporary file beside it,
which is then moved into place, so that the file holds the old records or the new ones and never a
part of either.
-/

namespace HistoryExpansion

/-- An archive with the path of the file that it is kept in. -/
structure HistoryFile where
  /-- The path of the file. -/
  path : String
  /-- The records, which may be ahead of the file when writing it failed. -/
  archive : Archive

namespace HistoryFile

/-- The archive that the octets of a history file hold, each record cut to the window. -/
def load (window : Nat) (octets : Octets) : Except Failure Archive :=
  match octets.text with
  | .error failure => .error failure
  | .ok text =>
    match HistoryFormat.parse text with
    | .error fault => .error (.json fault)
    | .ok records => .ok ((Archive.empty window).restore records)

/-- Opens the history file at a path. Where no file is, the archive starts empty. -/
def openAt (disk : Disk) (path : String) (window : Nat) : Except Failure HistoryFile :=
  match disk.read path with
  | .error .notFound => .ok ⟨path, Archive.empty window⟩
  | .error error => .error (.ofDisk error)
  | .ok octets => (load window octets).map fun archive => ⟨path, archive⟩

/-- The path of the temporary file. -/
def temporaryPath (path : String) : String :=
  Path.withExtension path "json.tmp"

/-- The octets of the file that holds an archive. -/
def content (archive : Archive) : Octets :=
  Utf8.encode (HistoryFormat.render archive.records)

/-- Makes the directory that a path stands in, unless the path names none. -/
def makeParent (path : String) : Disk.Change := fun disk =>
  match Path.parent? path with
  | none => (.ok (), disk)
  | some parent => if parent = "" then (.ok (), disk) else Disk.makeDirectories parent disk

/-- Writes the archive to its file. -/
def persist (file : HistoryFile) : Disk.Change := fun disk =>
  match makeParent file.path disk with
  | (.error error, disk) => (.error error, disk)
  | (.ok (), disk) =>
    match Disk.write (temporaryPath file.path) (content file.archive) disk with
    | (.error error, disk) => (.error error, disk)
    | (.ok (), disk) => Disk.rename (temporaryPath file.path) file.path disk

/-- Adds a command to a session's record and writes the file. The archive keeps the command even if
the file cannot be written. -/
def append (file : HistoryFile) (session command : String) (disk : Disk) :
    Except Failure Unit × HistoryFile × Disk :=
  let file := { file with archive := file.archive.push session command }
  let (result, disk) := file.persist disk
  (result.mapError fun error => .storage (Failure.ofDisk error).message, file, disk)

end HistoryFile

end HistoryExpansion
