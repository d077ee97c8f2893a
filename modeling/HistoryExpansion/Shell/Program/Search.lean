import HistoryExpansion.Shell.Condition
import HistoryExpansion.Shell.Subshell
import HistoryExpansion.Shell.Utility

/-!
# Finding programs

A name that is no command of the shell leads to a program on the disk: one that the system has, or a
file with permission to be run, whose text is a script.
-/

namespace HistoryExpansion.Shell

/-- A program. -/
inductive Program where
  /-- One that the system has, by its name. -/
  | named (name : String)
  /-- The file at a path. -/
  | script (path : String)
  deriving DecidableEq, Repr

/-- Why a program is not started. -/
inductive Unstartable where
  /-- There is none of that name. -/
  | missing
  /-- It may not be run. -/
  | forbidden
  deriving DecidableEq, Repr

/-- The status of a shell that cannot start the program of a name. -/
def Unstartable.status (name : String) : Unstartable → Nat
  | missing => 127
  | forbidden => if name.toList.contains '/' then 126 else 127

/-- The wording of the reason. -/
def Unstartable.reason : Unstartable → String
  | missing => "not found"
  | forbidden => "Permission denied"

/-- The error of a system that is asked to start the program. -/
def Unstartable.error : Unstartable → DiskError
  | missing => .notFound
  | forbidden => .notPermitted

/-- The program that runs a script, and its first argument if there is one. They stand behind a mark
on the first line of its text. -/
def interpreterOf? (octets : Octets) : Option (String × List String) :=
  match Utf8.decodeLossy octets with
  | '#' :: '!' :: rest =>
    let isBlank (c : Char) : Bool := c == ' ' || c == '\t'
    let line := (rest.takeWhile (· ≠ '\n')).dropWhile isBlank
    let path := line.takeWhile fun c => !isBlank c
    let argument :=
      (((line.drop path.length).dropWhile isBlank).reverse.dropWhile isBlank).reverse
    some (String.ofList path, if argument.isEmpty then [] else [String.ofList argument])
  | _ => none

/-- The program that stands at a path. A script needs the program that is to run it. -/
def programAt (disk : Disk) (path : String) : Except DiskError Program :=
  match disk.find path with
  | .error error => .error error
  | .ok entry =>
    if !isRunnable disk path then .error .notPermitted
    else
      match entry with
      | .program name => .ok (.named name)
      | .file content =>
        match interpreterOf? content with
        | none => .ok (.script path)
        | some (interpreter, _) =>
          if !disk.holds interpreter then .error .notFound
          else if isRunnable disk interpreter then .ok (.script path)
          else .error .notPermitted
      | _ => .error .notPermitted

/-- Why a disk error keeps a program from being started. -/
def Unstartable.ofError : DiskError → Unstartable
  | .notFound => missing
  | .notDirectory => missing
  | _ => forbidden

/-- The paths that a name is looked for at. -/
def searchPaths (paths name : String) : List String :=
  (Text.splitAtEach ':' paths.toList).map fun directory =>
    if directory.isEmpty then name else String.ofList directory ++ "/" ++ name

/-- The directories that programs are looked for in, as they stand in a variable. -/
def usualSearch : String :=
  String.intercalate ":" (usualPaths.map (Path.ofParts true))

/-- The path of a program and the program. A name with a slash is a path; any other name is looked
for in directories. -/
def findProgram (disk : Disk) (paths name : String) :
    Except Unstartable (String × Program) :=
  let startable (path : String) : Except Unstartable (String × Program) :=
    match programAt disk path with
    | .ok program => .ok (path, program)
    | .error error => .error (.ofError error)
  if name.toList.contains '/' then startable name
  else if name = "" then .error .forbidden
  else
    let found := (searchPaths paths name).map startable
    match found.find? Except.toBool with
    | some program => program
    | none =>
      if found.any (fun
          | .error .forbidden => true
          | _ => false)
      then .error .forbidden
      else .error .missing

/-- Looks a program up. A shell of the extended dialect does not search for what it remembers. -/
def lookUp (name : String) : Effect (Except Unstartable (String × Program)) := do
  let own ← own
  let disk ← diskHere
  let paths := (← value? "PATH").getD ""
  match own.remembered.find? (·.name == name) with
  | some remembered =>
    if own.dialect.isExtended then return findProgram disk paths remembered.path
    else return findProgram disk paths name
  | none => return findProgram disk paths name

/-- Remembers where a program is that was called by a name so many times more. -/
def remember (name path : String) (calls : Nat) : Effect Unit := do
  if !name.toList.contains '/' then
    changeOwn fun own =>
      let before := ((own.remembered.find? (·.name == name)).map Remembered.calls).getD 0
      let others := own.remembered.filter (·.name ≠ name)
      { own with remembered := { name, path, calls := before + calls } :: others }

end HistoryExpansion.Shell
