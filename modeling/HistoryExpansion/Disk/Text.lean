import HistoryExpansion.Disk.Basic
import HistoryExpansion.Failure

/-!
# Text files

Files are octets. A file that is read as a text must be UTF-8 throughout.
-/

namespace HistoryExpansion

/-- The failure to read octets that are not UTF-8. -/
def Failure.notUtf8 : Failure := .io "stream did not contain valid UTF-8"

/-- The failure that a disk error is to a reader. -/
def Failure.ofDisk (error : DiskError) : Failure := .io error.message

/-- The text that octets encode. -/
def Octets.text (octets : Octets) : Except Failure (List Char) :=
  match Utf8.decode octets with
  | .error _ => .error .notUtf8
  | .ok text => .ok text

/-- The text of the file at a path. -/
def Disk.readText (disk : Disk) (path : String) : Except Failure (List Char) :=
  match disk.read path with
  | .error error => .error (.ofDisk error)
  | .ok octets => octets.text

end HistoryExpansion
