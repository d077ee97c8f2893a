import HistoryExpansion.Disk.Path

/-!
# Disks

A disk is a tree of directories, files, programs and links, kept as the list of its locations,
together with the directory that relative paths start from. A path is followed part by part; each
part but the last must be a directory that is there, or a link that leads to one.

All links are symbolic: each place has an entry of its own, and no two places share one. There are
no pipes or sockets. Permissions are noted for those who list or change them (`modes`), and a path
is followed and a file read whatever they say; a change that a disk does not permit is one that it
refuses (`refuses`). So something stands at a path exactly if the path can be looked up.
-/

namespace HistoryExpansion

/-- The reason why a disk does not do what was asked. -/
inductive DiskError where
  /-- A part of the path is not there. -/
  | notFound
  /-- The request is not permitted. -/
  | notPermitted
  /-- The place is in use. -/
  | busy
  /-- What is asked for makes no sense, as to move a directory into itself. -/
  | invalid
  /-- Something stands at the path already. -/
  | alreadyExists
  /-- A part of the path is no directory. -/
  | notDirectory
  /-- The path is a directory. -/
  | isDirectory
  /-- A name or the whole path is too long. -/
  | nameTooLong
  /-- The directory holds something. -/
  | notEmpty
  /-- A link leads to a link, and so on without an end. -/
  | tooManyLinks
  /-- There is no room left. -/
  | noSpace
  /-- The descriptor stands for nothing. -/
  | badDescriptor
  /-- The path holds the character with code zero. -/
  | nulInPath
  deriving DecidableEq, Repr

/-- The text of a disk error. -/
def DiskError.reason : DiskError → String
  | notFound => "No such file or directory"
  | notPermitted => "Permission denied"
  | busy => "Device or resource busy"
  | invalid => "Invalid argument"
  | alreadyExists => "File exists"
  | notDirectory => "Not a directory"
  | isDirectory => "Is a directory"
  | noSpace => "No space left on device"
  | nameTooLong => "File name too long"
  | notEmpty => "Directory not empty"
  | tooManyLinks => "Too many levels of symbolic links"
  | badDescriptor => "Bad file descriptor"
  | nulInPath => "file name contained an unexpected NUL byte"

/-- The number of a disk error; a path that no system is ever asked for has none. -/
def DiskError.number? : DiskError → Option Nat
  | notFound => some 2
  | badDescriptor => some 9
  | notPermitted => some 13
  | busy => some 16
  | alreadyExists => some 17
  | notDirectory => some 20
  | isDirectory => some 21
  | invalid => some 22
  | noSpace => some 28
  | nameTooLong => some 36
  | notEmpty => some 39
  | tooManyLinks => some 40
  | nulInPath => none

/-- The wording of a disk error: its text and its number. -/
def DiskError.message (error : DiskError) : String :=
  match error.number? with
  | some number => error.reason ++ " (os error " ++ toString number ++ ")"
  | none => error.reason

/-- A place on a disk: the names from the root down to it. -/
abbrev Location := List String

/-- A file that keeps nothing. -/
inductive Device where
  /-- It is empty, and takes everything that is written to it. -/
  | null
  /-- It takes nothing, as if there were no room left. -/
  | full
  /-- It holds zeros without an end. -/
  | zero
  deriving DecidableEq, Repr

/-- What stands at a place. -/
inductive Entry where
  /-- A directory. -/
  | directory
  /-- A file with its content. -/
  | file (content : Octets)
  /-- A file that keeps nothing. -/
  | device (device : Device)
  /-- A program, which can be started. -/
  | program (name : String)
  /-- A link that leads to a path, which starts from the directory of the link. -/
  | link (target : String)
  deriving DecidableEq, Repr

/-- The number of zeros that stand for zeros without an end. -/
def manyZeros : Nat := 65536

/-- The content that an entry shows to a reader; a directory shows none, and neither does a link by
itself. -/
def Entry.content? : Entry → Option Octets
  | directory => none
  | file content => some content
  | device .zero => some (List.replicate manyZeros 0)
  | device _ => some []
  | program _ => some [0x7F, 0x45, 0x4C, 0x46, 0xFF]
  | link _ => none

/-- The permissions that an entry is made with, before any are masked: three bits each for its
owner, its group and others. -/
def Entry.fullMode : Entry → Nat
  | directory => 0o777
  | file _ => 0o666
  | device _ => 0o666
  | program _ => 0o777
  | link _ => 0o777

/-- The permissions that new entries are denied unless something else is said. -/
def usualMask : Nat := 0o022

/-- Permissions without those of a mask. -/
def masked (mode mask : Nat) : Nat :=
  mode - (mode &&& mask)

/-- The permissions of an entry that none are noted for. Those of links and devices are not
masked. -/
def Entry.usualMode : Entry → Nat
  | link _ => 0o777
  | device _ => 0o666
  | entry => masked entry.fullMode usualMask

/-- A change that is asked of a disk. -/
inductive Request where
  /-- To make a directory. -/
  | makeDirectory (place : Location)
  /-- To give a file a content. -/
  | write (place : Location) (content : Octets)
  /-- To move what stands at one place to another. -/
  | rename (source target : Location)
  /-- To take away what stands at a place. -/
  | remove (place : Location)
  deriving DecidableEq, Repr

/-- How a disk refuses a change that its tree would allow. -/
structure Refusal where
  /-- The reason it gives. -/
  error : DiskError
  /-- What a refused write leaves at the place of the file, if it got that far. -/
  leaves : Option Octets := none
  deriving DecidableEq, Repr

/-- A tree of entries with a working directory. -/
structure Disk where
  /-- The entries below the root, each place at most once. -/
  entries : List (Location × Entry)
  /-- The directory that relative paths start from. -/
  here : Location := []
  /-- The changes that the disk refuses although its tree allows them. -/
  refuses : Request → Option Refusal := fun _ => none
  /-- The permissions of entries whose permissions are not the usual ones. -/
  modes : List (Location × Nat) := []
  /-- The permissions that new entries are denied. -/
  mask : Nat := usualMask
  /-- The times at which entries were last changed, where that is known. -/
  times : List (Location × Int) := []
  /-- The time, in thousandths of a second. -/
  now : Int := 0

namespace Disk

/-- What stands at a place. The root is always a directory. -/
def entry? (disk : Disk) (place : Location) : Option Entry :=
  if place = [] then some .directory
  else (disk.entries.find? (·.1 == place)).map Prod.snd

/-- The longest name in octets. -/
def longestName : Nat := 255

/-- The longest path in octets. -/
def longestPath : Nat := 4095

/-- The number of octets of a text. -/
def octetCount (text : String) : Nat :=
  text.utf8ByteSize

/-- One part of a path, followed from a directory. -/
def follow (disk : Disk) (place : Location) (part : String) : Except DiskError Location :=
  match disk.entry? place with
  | none => .error .notFound
  | some .directory =>
    if part = "" ∨ part = "." then .ok place
    else if part = ".." then .ok place.dropLast
    else if octetCount part > longestName then .error .nameTooLong
    else .ok (place ++ [part])
  | some _ => .error .notDirectory

/-- The place that a path starts from, when it is met in a directory. -/
def startFrom (directory : Location) (path : String) : Location :=
  if Path.isAbsolute path then [] else directory

/-- The parts of a path, followed one after the other. A link leads on as `along` says, but one that
the path ends in may itself be meant. -/
def followAll (disk : Disk) (through : Bool)
    (along : Location → List String → Except DiskError Location) :
    (place : Location) → (parts : List String) → Except DiskError Location
  | place, [] => .ok place
  | place, part :: parts =>
    match disk.follow place part with
    | .error error => .error error
    | .ok next =>
      match disk.entry? next with
      | some (.link target) =>
        if parts.isEmpty && !through then .ok next
        else along (startFrom place target) (Path.segments target ++ parts)
      | _ => followAll disk through along next parts

/-- The parts of a path, followed along at most so many links. -/
def followLinks (disk : Disk) (through : Bool) : (links : Nat) → (place : Location) →
    (parts : List String) → Except DiskError Location
  | 0 => disk.followAll through fun _ _ => .error .tooManyLinks
  | links + 1 => disk.followAll through (followLinks disk through links)

/-- The greatest number of links on the way of one path. -/
def mostLinks : Nat := 40

/-- The place that parts lead to from where a path starts, once the path itself is in order. -/
def locateParts (disk : Disk) (through : Bool) (path : String) (parts : List String) :
    Except DiskError Location :=
  if path.toList.contains '\x00' then .error .nulInPath
  else if path = "" then .error .notFound
  else if octetCount path > longestPath then .error .nameTooLong
  else disk.followLinks through mostLinks (startFrom disk.here path) parts

/-- The place that a path leads to. Something need not stand there. -/
def locate (disk : Disk) (path : String) : Except DiskError Location :=
  disk.locateParts true path (Path.segments path)

/-- The place that a path names: a link that the path ends in is not followed. -/
def locateItself (disk : Disk) (path : String) : Except DiskError Location :=
  disk.locateParts false path (Path.segments path)

/-- What stands at a path. -/
def find (disk : Disk) (path : String) : Except DiskError Entry :=
  match disk.locate path with
  | .error error => .error error
  | .ok place =>
    match disk.entry? place with
    | none => .error .notFound
    | some entry => .ok entry

/-- What a path names: a link that the path ends in is not followed. -/
def findItself (disk : Disk) (path : String) : Except DiskError Entry :=
  match disk.locateItself path with
  | .error error => .error error
  | .ok place =>
    match disk.entry? place with
    | none => .error .notFound
    | some entry => .ok entry

/-- Whether something stands at a path. -/
def holds (disk : Disk) (path : String) : Bool :=
  (disk.find path).toBool

/-- Whether a directory stands at a path. -/
def holdsDirectory (disk : Disk) (path : String) : Bool :=
  match disk.find path with
  | .ok .directory => true
  | _ => false

/-- The content of the file at a path. -/
def read (disk : Disk) (path : String) : Except DiskError Octets :=
  match disk.find path with
  | .error error => .error error
  | .ok entry => (entry.content?).elim (.error .isDirectory) .ok

/-- The permissions of what stands at a place. -/
def mode (disk : Disk) (place : Location) : Nat :=
  match disk.modes.lookup place with
  | some mode => mode
  | none => ((disk.entry? place).map Entry.usualMode).getD 0

/-- The time at which what stands at a place was last changed. What no time is noted for is older
than all that was changed since the disk was there. -/
def time (disk : Disk) (place : Location) : Int :=
  (disk.times.lookup place).getD (-1)

/-- The names of what stands directly in a directory. -/
def names (disk : Disk) (place : Location) : List String :=
  disk.entries.filterMap fun (other, _) =>
    match other.getLast? with
    | some name => if other.dropLast = place then some name else none
    | none => none

/-- Everything below a directory, by its path from there. -/
def below (disk : Disk) (place : Location) : List (Location × Entry) :=
  disk.entries.filterMap fun (other, entry) =>
    if place.isPrefixOf other ∧ other ≠ place then some (other.drop place.length, entry) else none

end Disk

end HistoryExpansion
