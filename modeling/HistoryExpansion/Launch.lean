import HistoryExpansion.Backend
import HistoryExpansion.Config.Basic
import HistoryExpansion.Disk.Text
import HistoryExpansion.Shell.Schedule

/-!
# Launching commands

A command is run by a program, the shell of the configuration, which gets an argument and the text
of the command. Its input is empty; what it prints is taken as text, with the replacement character
where it is not UTF-8. A program that cannot be started is a failure, and so is a command that
outlasts the limit; a command that ends with an exit code, whatever it is, is none.
-/

namespace HistoryExpansion

open Shell

namespace Launcher

/-- The failure to start the program. -/
def spawnFailure (launcher : Launcher) (reason : String) : Failure :=
  .execution ("Failed to spawn " ++ launcher.shell ++ ": " ++ reason)

/-- The program of a name. A name with a slash is a path; any other name is looked for in the
directories of a search path, where one that may not be run counts only if no other is found. -/
def findProgram (disk : Disk) (search name : String) : Except DiskError Program :=
  if name = "" then .error .notFound
  else if name.toList.contains '/' then programAt disk name
  else if Disk.octetCount name > Disk.longestName then .error .nameTooLong
  else
    let found := (searchPaths search name).map (programAt disk)
    match found.find? Except.toBool with
    | some program => program
    | none =>
      if found.any (fun
          | .error .notPermitted => true
          | _ => false)
      then .error .notPermitted
      else .error .notFound

/-- The number of levels that a command is run down to. -/
def levels : Nat := 20000

/-- The streams that what a command prints goes to. -/
def outputs : List Nat := [1, 2]

/-- The dialect of a program, if it is a shell. -/
def shellDialect? : Program → Option Dialect
  | .named name => if shells.contains name then some (dialectOf name) else none
  | .script _ => none

/-- The time at which a command is stopped, in thousandths of a second. -/
def deadline? (launcher : Launcher) : Option Nat :=
  if launcher.limit = 0 then none else some (launcher.limit.toNat * 1000)

/-- The state that a command starts in. -/
def initialState (launcher : Launcher) (program : Program) (exported : List (String × String))
    (disk : Disk) : State where
  disk := disk
  streams := #[.void, .sink [], .sink []]
  deadline := launcher.deadline?
  own :=
    freshOwn ((shellDialect? program).getD .plain) launcher.shell firstProcess disk.here exported
      [(0, 0), (1, 1), (2, 2)]

/-- Runs a program with the launcher's argument and the text of a command. -/
def perform (launcher : Launcher) (program : Program) (command : String)
    (exported : List (String × String)) : Effect Nat :=
  let below := interpreter levels
  let arguments := [launcher.argument, command]
  if (shellDialect? program).isSome then runShell below launcher.shell arguments
  else runProgram below .plain deepest program launcher.shell arguments exported

/-- The exit code of a command, by how it left the shell; minus one if a signal ended it, and
nothing if it did not end. -/
def exitCode? (state : State) : Except Flow Nat → Option Int
  | .ok status => some status
  | .error (.exit status) => some (status % 256 : Nat)
  | .error (.failed status) => some (status : Nat)
  | .error (.killed _ _) => some (-1)
  | .error (.crashed _) => some (-1)
  | .error .expired => none
  | .error .endless => none
  | .error _ => some state.own.status

/-- What a stream has taken, as text. -/
def printed (shared : Shared) (stream : Nat) : String :=
  match shared.streams[stream]? with
  | some (.sink parts) => String.ofList (Utf8.decodeLossy parts.reverse.flatten)
  | _ => ""

/-- Runs a command on a disk, with some variables set. -/
def launch (launcher : Launcher) (exported : List (String × String)) (command : String) :
    Action Disk Output := fun disk =>
  if [launcher.shell, launcher.argument, command].any (·.toList.contains '\x00') then
    (.error (launcher.spawnFailure "nul byte found in provided data"), disk)
  else
    let search := (exported.lookup "PATH").getD usualSearch
    match findProgram disk search launcher.shell with
    | .error error => (.error (launcher.spawnFailure error.message), disk)
    | .ok program =>
      let schedule :=
        Schedule.ofEffect levels outputs (perform launcher program command exported)
          (launcher.initialState program exported disk)
      let late : Bool :=
        match launcher.deadline?, schedule.closing? outputs with
        | some deadline, some time => time ≥ deadline
        | some _, none => true
        | none, _ => false
      let code? := schedule.outcome.bind fun (result, state) => exitCode? state result
      match if late then none else code? with
      | some code =>
        let shared := schedule.shared
        (.ok ⟨printed shared 1, printed shared 2, code⟩, shared.disk)
      | none => (.error (.timeout launcher.limit), schedule.shared.disk)

end Launcher

end HistoryExpansion
