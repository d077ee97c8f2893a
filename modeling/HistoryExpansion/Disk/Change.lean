import HistoryExpansion.Disk.Basic

/-!
# Changes to a disk

Making directories, writing, moving and removing. Every change gives a value or an error and leaves
a disk behind. Each single change is checked against the tree first and may then still be refused.
-/

namespace HistoryExpansion.Disk

/-- A change to a disk. -/
abbrev Change := Disk → Except DiskError Unit × Disk

/-- Puts an entry at a place, in the place of what stood there. -/
def put (disk : Disk) (place : Location) (entry : Entry) : Disk :=
  { disk with
    entries :=
      if disk.entries.any (·.1 == place) then
        disk.entries.map fun old => if old.1 = place then (place, entry) else old
      else disk.entries ++ [(place, entry)] }

/-- Notes the permissions of what stands at a place. -/
def setMode (disk : Disk) (place : Location) (mode : Nat) : Disk :=
  { disk with modes := (place, mode) :: disk.modes.filter (·.1 ≠ place) }

/-- Notes the time at which what stands at a place was last changed. -/
def setTime (disk : Disk) (place : Location) (time : Int) : Disk :=
  { disk with times := (place, time) :: disk.times.filter (·.1 ≠ place) }

/-- Makes an entry at a place where nothing stood, without the permissions that are masked. -/
def create (disk : Disk) (place : Location) (entry : Entry) : Disk :=
  let disk := (disk.put place entry).setTime place disk.now
  if disk.mask = usualMask then disk else disk.setMode place (masked entry.fullMode disk.mask)

/-- Gives the file at a place a content, or makes the file. -/
def fill (disk : Disk) (place : Location) (content : Octets) : Disk :=
  match disk.entry? place with
  | none => disk.create place (.file content)
  | some _ => (disk.put place (.file content)).setTime place disk.now

/-- Takes away what is noted of the places that pass a check. -/
def forget (disk : Disk) (check : Location → Bool) : Disk :=
  { disk with
    entries := disk.entries.filter fun old => !check old.1
    modes := disk.modes.filter fun old => !check old.1
    times := disk.times.filter fun old => !check old.1 }

/-- Takes the entry at a place away. -/
def drop (disk : Disk) (place : Location) : Disk :=
  disk.forget (· == place)

/-- Takes the entry at a place away with everything below it. -/
def dropTree (disk : Disk) (place : Location) : Disk :=
  disk.forget place.isPrefixOf

/-- Moves the entry at a place with everything below it to another place, where nothing stands. -/
def moveTree (disk : Disk) (source target : Location) : Disk :=
  let moved (place : Location) : Location :=
    if source.isPrefixOf place then target ++ place.drop source.length else place
  { disk with
    entries := disk.entries.map fun old => (moved old.1, old.2)
    modes := disk.modes.map fun old => (moved old.1, old.2)
    times := disk.times.map fun old => (moved old.1, old.2) }

/-- Carries a change out unless the disk refuses it. -/
def unlessRefused (request : Request) (change : Disk → Disk) : Change := fun disk =>
  match disk.refuses request with
  | some refusal => (.error refusal.error, disk)
  | none => (.ok (), change disk)

/-- Drops the empty parts that a path ends in. -/
def withoutTrailingSlashes (segments : List String) : List String :=
  (segments.reverse.dropWhile (· = "")).reverse

/-- The place at which a path would have something made. A link that the path ends in is not
followed, with or without slashes behind it. -/
def locateNew (disk : Disk) (path : String) : Except DiskError Location :=
  disk.locateParts false path (withoutTrailingSlashes (Path.segments path))

/-- Makes one directory. -/
def makeDirectory (path : String) : Change := fun disk =>
  match disk.locateNew path with
  | .error error => (.error error, disk)
  | .ok place =>
    match disk.entry? place with
    | some _ => (.error .alreadyExists, disk)
    | none => unlessRefused (.makeDirectory place) (·.create place .directory) disk

/-- Makes the directory that stands before the reversed parts of a path, and before it all that are
missing above it. -/
def makeDirectoriesAt (absolute : Bool) : (reversed : List String) → Change
  | [], disk => (.ok (), disk)
  | last :: above, disk =>
    let path := Path.ofParts absolute (last :: above).reverse
    match makeDirectory path disk with
    | (.ok (), disk) => (.ok (), disk)
    | (.error .notFound, disk) =>
      match makeDirectoriesAt absolute above disk with
      | (.error error, disk) => (.error error, disk)
      | (.ok (), disk) =>
        match makeDirectory path disk with
        | (.ok (), disk) => (.ok (), disk)
        | (.error error, disk) =>
          if disk.holdsDirectory path then (.ok (), disk) else (.error error, disk)
    | (.error error, disk) =>
      if disk.holdsDirectory path then (.ok (), disk) else (.error error, disk)

/-- Makes a directory and all that are missing above it. -/
def makeDirectories (path : String) : Change := fun disk =>
  if path.toList.contains '\x00' then (.error .nulInPath, disk)
  else makeDirectoriesAt (Path.isAbsolute path) (Path.parts path).reverse disk

/-- Gives the file at a path a content; the file is made if it is not there. -/
def write (path : String) (content : Octets) : Change := fun disk =>
  match disk.locate path with
  | .error error => (.error error, disk)
  | .ok place =>
    match disk.entry? place with
    | some .directory => (.error .isDirectory, disk)
    | some (.device .full) => (.error .noSpace, disk)
    | some (.device _) => (.ok (), disk)
    | _ =>
      match disk.refuses (.write place content) with
      | some refusal =>
        (.error refusal.error,
          match refusal.leaves with
          | some left => disk.fill place left
          | none => disk)
      | none => (.ok (), disk.fill place content)

/-- Whether the last part of a path leads to a directory that it does not name. -/
def endsInDots (path : String) : Bool :=
  match (withoutTrailingSlashes (Path.segments path)).getLast? with
  | some part => part == "." || part == ".."
  | none => true

/-- Why what stands at one place cannot take the place of what stands at another. -/
def replacement? (disk : Disk) (source target : Location) : Option DiskError :=
  let movesDirectory := disk.entry? source == some .directory
  if movesDirectory && source.isPrefixOf target && source != target then some .invalid
  else
    match disk.entry? target with
    | none => none
    | some .directory =>
      if !movesDirectory then some .isDirectory
      else if source != target && !(disk.names target).isEmpty then some .notEmpty
      else none
    | some _ => if movesDirectory then some .notDirectory else none

/-- Moves what stands at one path to another, in the place of a file or an empty directory there. -/
def rename (source target : String) : Change := fun disk =>
  match disk.locateNew source, disk.locateNew target with
  | .error error, _ => (.error error, disk)
  | _, .error error => (.error error, disk)
  | .ok sourcePlace, .ok targetPlace =>
    if endsInDots source ∨ endsInDots target then (.error .busy, disk)
    else
      match disk.entry? sourcePlace with
      | none => (.error .notFound, disk)
      | some entry =>
        if entry ≠ .directory ∧ (Path.endsInSlash source ∨ Path.endsInSlash target) then
          (.error .notDirectory, disk)
        else
          match disk.replacement? sourcePlace targetPlace with
          | some error => (.error error, disk)
          | none =>
            unlessRefused (.rename sourcePlace targetPlace)
              (fun disk =>
                if sourcePlace = targetPlace then disk
                else (disk.drop targetPlace).moveTree sourcePlace targetPlace)
              disk

/-- Makes a link at a path that leads to another. -/
def makeLink (target path : String) : Change := fun disk =>
  match disk.locateNew path with
  | .error error => (.error error, disk)
  | .ok place =>
    if target = "" then (.error .notFound, disk)
    else
      match disk.entry? place with
      | some _ => (.error .alreadyExists, disk)
      | none =>
        if Path.endsInSlash path then (.error .notFound, disk)
        else unlessRefused (.write place []) (·.create place (.link target)) disk

/-- Sets the permissions of what a path leads to. -/
def changeMode (path : String) (change : Entry → Nat → Nat) : Change := fun disk =>
  match disk.locate path with
  | .error error => (.error error, disk)
  | .ok place =>
    match disk.entry? place with
    | none => (.error .notFound, disk)
    | some entry => (.ok (), disk.setMode place (change entry (disk.mode place)))

/-- Notes the time at which what a path leads to was last changed. -/
def changeTime (path : String) (time : Int) : Change := fun disk =>
  match disk.locate path with
  | .error error => (.error error, disk)
  | .ok place =>
    match disk.entry? place with
    | none => (.error .notFound, disk)
    | some _ => (.ok (), disk.setTime place time)

/-- Gives the file at a path the content of an entry, and its permissions if the file is new. -/
def copyFile (entry : Entry) (mode : Nat) (path : String) : Change := fun disk =>
  let isNew := !disk.holds path
  match write path ((entry.content?).getD []) disk with
  | (.error error, disk) => (.error error, disk)
  | (.ok (), disk) =>
    match disk.locate path with
    | .error _ => (.ok (), disk)
    | .ok place =>
      let disk :=
        match entry, disk.entry? place with
        | .program _, some (.file _) => disk.put place entry
        | _, _ => disk
      let wanted := masked mode disk.mask
      (.ok (), if isNew && disk.mode place != wanted then disk.setMode place wanted else disk)

/-- Removes the file or the link that a path names. -/
def removeFile (path : String) : Change := fun disk =>
  match disk.locateItself path with
  | .error error => (.error error, disk)
  | .ok place =>
    match disk.entry? place with
    | none => (.error .notFound, disk)
    | some .directory => (.error .isDirectory, disk)
    | some _ => unlessRefused (.remove place) (·.drop place) disk

/-- Removes what a path names with everything below it. -/
def removeTree (path : String) : Change := fun disk =>
  match disk.locateItself path with
  | .error error => (.error error, disk)
  | .ok place =>
    match disk.entry? place with
    | none => (.error .notFound, disk)
    | some _ => unlessRefused (.remove place) (·.dropTree place) disk

/-- Writes a file and makes the directories above it that are missing. -/
def writeWithParents (path : String) (content : Octets) : Change := fun disk =>
  match (Path.parent? path).elim (.ok (), disk) (fun parent => makeDirectories parent disk) with
  | (.error error, disk) => (.error error, disk)
  | (.ok (), disk) => write path content disk

end HistoryExpansion.Disk
