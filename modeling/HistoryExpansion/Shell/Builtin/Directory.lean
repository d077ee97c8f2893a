import HistoryExpansion.Shell.Builtin.Basic

/-!
# Commands for the shell's directory

The shell goes from one directory to another, and in the extended dialect back again. It remembers
the way that it was told: where a link leads elsewhere, the path of its directory keeps the link.
-/

namespace HistoryExpansion.Shell.Builtin

/-- The parts of a path from a directory, where two dots take a part away. -/
def wayFrom (start : Location) (path : String) : Location :=
  (Path.segments path).foldl
    (fun parts part =>
      if part = "" ∨ part = "." then parts
      else if part = ".." then parts.dropLast
      else parts ++ [part])
    (if Path.isAbsolute path then [] else start)

/-- Goes to a directory, unless there is none at the path. -/
def goTo (path : String) (physical : Bool) : Effect (Except DiskError Unit) := do
  let own ← own
  let way := wayFrom own.shownHere path
  let target := if physical then path else Path.ofParts true way
  let disk ← diskHere
  match disk.locate target, disk.find (if physical then target else path) with
  | .error error, _ => return .error error
  | .ok place, found =>
    match disk.entry? place, found with
    | some .directory, _ =>
      assign "OLDPWD" (Path.ofParts true own.shownHere)
      let shown := if physical then place else way
      changeOwn fun own => { own with here := place, shownHere := shown }
      assign "PWD" (Path.ofParts true shown)
      return .ok ()
    | _, .error error => return .error error
    | _, .ok _ => return .error .notDirectory

/-- Goes to another directory. -/
def changeDirectory : Builtin := fun arguments => do
  let physical := (arguments.takeWhile fun word => word = "-L" ∨ word = "-P").getLast? = some "-P"
  let arguments := arguments.filter fun word => word ≠ "-L" ∧ word ≠ "-P" ∧ word ≠ "--"
  let extended ← isExtended
  let (path, shows) ←
    match arguments with
    | [] =>
      match ← value? "HOME" with
      | some home => pure (home, false)
      | none =>
        if extended then
          complain "HOME not set"
          return 1
        pure ("", false)
    | "-" :: _ =>
      match ← value? "OLDPWD" with
      | some old => pure (old, true)
      | none =>
        if extended then
          complain "OLDPWD not set"
          return 1
        pure (Path.ofParts true (← own).shownHere, true)
    | path :: more =>
      if extended ∧ !more.isEmpty then
        complain "too many arguments"
        return 1
      pure (path, false)
  if path = "" then return 0
  match ← goTo path physical with
  | .ok () =>
    if shows then writeText 1 (Path.ofParts true (← own).shownHere ++ "\n")
    return 0
  | .error error =>
    complainAs ("can't cd to " ++ path) (path ++ ": " ++ error.reason)
    return if extended then 1 else 2

/-- A path with the user's directory written by a tilde. -/
def shortened (home : Option String) (place : Location) : String :=
  let path := Path.ofParts true place
  match home with
  | none => path
  | some home =>
    if home = "/" then path
    else if path = home then "~"
    else
      match Text.after? (home ++ "/").toList path.toList with
      | some rest => "~/" ++ String.ofList rest
      | none => path

/-- Shows the directories that the shell can go back to. -/
def directories : Builtin := fun arguments => do
  let own ← own
  let home ← value? "HOME"
  let places := own.shownHere :: own.directories
  if arguments.contains "-c" then
    changeOwn fun own => { own with directories := [] }
    return 0
  let shown := places.map fun place =>
    if arguments.contains "-l" then Path.ofParts true place else shortened home place
  if arguments.contains "-p" then
    printingText (String.join (shown.map (· ++ "\n")))
  else if arguments.contains "-v" then
    printingText (String.join (shown.zipIdx.map fun (path, i) =>
      " " ++ toString i ++ "  " ++ path ++ "\n"))
  else printingText (String.intercalate " " shown ++ "\n")

/-- Goes to a directory and remembers the one before. -/
def pushDirectory : Builtin := fun arguments => do
  let own ← own
  match arguments, own.directories with
  | [], [] =>
    complain "no other directory"
    return 1
  | [], place :: rest =>
    let before := own.shownHere
    let _ ← goTo (Path.ofParts true place) false
    changeOwn fun own => { own with directories := before :: rest }
    directories []
  | path :: _, rest =>
    let before := own.shownHere
    match ← goTo path false with
    | .ok () =>
      changeOwn fun own => { own with directories := before :: rest }
      directories []
    | .error error =>
      complain (path ++ ": " ++ error.reason)
      return 1

/-- Goes back to the directory before. -/
def popDirectory : Builtin := fun _ => do
  match (← own).directories with
  | [] =>
    complain "directory stack empty"
    return 1
  | place :: rest =>
    let _ ← goTo (Path.ofParts true place) false
    changeOwn fun own => { own with directories := rest }
    directories []

end HistoryExpansion.Shell.Builtin
