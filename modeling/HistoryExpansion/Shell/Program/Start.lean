import HistoryExpansion.Shell.Program.Search
import HistoryExpansion.Shell.Redirect

/-!
# Starting programs

A utility is run on what is left of the input, and what it wrote goes to the descriptors. A program
that runs others is given a `Launch`, which finds a program by its name and runs it.
-/

namespace HistoryExpansion.Shell

/-- Starts the program of some words, which are its name and its arguments, with the variables that
it gets; or says why that cannot be done. -/
abbrev Launch := (words : List String) → (environment : List (String × String)) →
  Effect (Except DiskError Nat)

/-- A program that runs others, given its name, its arguments and its variables. -/
abbrev Runner := Launch → (name : String) → (arguments : List String) →
  (environment : List (String × String)) → Effect Nat

/-- Runs a utility. -/
def runUtility (utility : Utility) (name : String) (arguments : List String)
    (environment : List (String × String)) : Effect Nat := do
  let input ← remaining 0
  let disk ← diskHere
  let rewinds := match ← stream? 0 with
    | some (_, .file ..) => true
    | _ => false
  let report := utility { name, arguments, input, disk, environment, rewinds }
  modify fun state => { state with disk := { report.disk with here := state.disk.here } }
  keepUnread 0 report.unread
  let mut refusal := none
  for (descriptor, octets) in report.writes.reverse do
    match ← write descriptor octets with
    | .ok () => pure ()
    | .error error => if descriptor = 1 then refusal := some error
  pause report.duration
  if report.endless && refusal.isNone then throw .endless
  match refusal with
  | none => return report.status
  | some error =>
    writeText 2 (name ++ ": write error: " ++ error.reason ++ "\n")
    return max report.status 1

/-- Writes a message of a program. -/
def complainFor (name message : String) : Effect Unit :=
  writeText 2 (name ++ ": " ++ message ++ "\n")

/-- The status of a program that cannot start another one. -/
def statusOfError (error : DiskError) : Nat :=
  if error = .notFound then 127 else 126

/-- The words that say where to learn more of a program. -/
def adviceFor (name : String) : String :=
  "Try '" ++ name ++ " --help' for more information.\n"

end HistoryExpansion.Shell
