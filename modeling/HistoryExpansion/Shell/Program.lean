import HistoryExpansion.Shell.Program.Awk
import HistoryExpansion.Shell.Program.Batches
import HistoryExpansion.Shell.Program.Find
import HistoryExpansion.Shell.Program.Invocation
import HistoryExpansion.Shell.Program.Kill
import HistoryExpansion.Shell.Program.Wrapped

/-!
# Programs that a shell starts

A name that is no command of the shell leads to a program on the disk. Most programs only read and
write; shells and the programs that run others are run as processes of their own.
-/

namespace HistoryExpansion.Shell

/-- The programs that run others, apart from shells. -/
def runner? (program : String) : Option Runner :=
  match program with
  | "env" => some runWithVariables
  | "timeout" => some runForTime
  | "nohup" => some (runAsIs [])
  | "nice" => some (runAsIs ['n'])
  | "stdbuf" => some (runAsIs ['i', 'o', 'e'])
  | "setsid" => some (runAsIs [])
  | "find" => some runFind
  | "xargs" => some runBatches
  | "awk" => some runAwk
  | "mawk" => some runAwk
  | _ => none

/-- The dialect of a shell. -/
def dialectOf (program : String) : Dialect :=
  if program = "bash" ∨ program = "rbash" then .extended else .plain

/-- Sends a signal as a program of its own. -/
def runKill (below : Interpreter) (arguments : List String) : Effect Nat := do
  try calledAs "kill" (kill below arguments)
  catch
    | .failed _ => return 1
    | flow => throw flow

/-- Runs a program that was found, by the name it was called by. A script that does not name the
program that is to run it is run by a shell of the given dialect. -/
def runProgram (below : Interpreter) (dialect : Dialect) : (fuel : Nat) → Program →
    (name : String) → (arguments : List String) → (environment : List (String × String)) →
    Effect Nat
  | 0, _, _, _, _ => throw .endless
  | fuel + 1, .script path, _, arguments, environment => do
    let disk ← diskHere
    let content := ((disk.read path).toOption).getD []
    match interpreterOf? content with
    | none => asProcess path dialect environment (runShell below path (path :: arguments))
    | some (interpreter, more) =>
      match programAt disk interpreter with
      | .ok program =>
        runProgram below dialect fuel program interpreter (more ++ path :: arguments) environment
      | .error error => return statusOfError error
  | fuel + 1, .named program, name, arguments, environment => do
    match utilities.lookup program with
    | some utility => runUtility utility name arguments environment
    | none =>
      if program = "kill" then runKill below arguments
      else
        match runner? program with
        | some runner =>
          let launch : Launch := fun words environment => do
            let paths := (environment.lookup "PATH").getD usualSearch
            match findProgram (← diskHere) paths (words.headD "") with
            | .error reason =>
              return .error (if words.headD "" = "" then .notFound else reason.error)
            | .ok (_, program) =>
              let status ← runProgram below .plain fuel program (words.headD "") (words.drop 1)
                environment
              return .ok status
          runner launch name arguments environment
        | none =>
          asProcess name (dialectOf program) environment (runShell below name arguments)

/-- The deepest nesting of programs that run each other. -/
def deepest : Nat := 1000

/-- Complains that a program cannot be started, and gives the status of that. -/
def refuseStart (name : String) (reason : Unstartable) : Effect Nat := do
  let hasSlash := name.toList.contains '/'
  if !(← isExtended) then
    complain (name ++ ": " ++ reason.reason)
    return reason.status name
  let disk ← diskHere
  if reason = .missing ∧ hasSlash then
    complain (name ++ ": " ++ if disk.holds name then "cannot execute: required file not found"
      else DiskError.notFound.reason)
    return 127
  else if reason = .missing ∨ name = "" then
    complain (name ++ ": command not found")
    return 127
  else
    complain (name ++ ": " ++
      (if disk.holdsDirectory name then DiskError.isDirectory else .notPermitted).reason)
    return 126

/-- Whether the shell has become a process of its own only to call one program. -/
def isAlone : Effect Bool := do
  let state ← get
  return state.own.process < state.process &&
    state.jobs.any fun job => job.process == state.process && job.isCall

/-- Variables for a program that takes the place of a shell, which is one level less deep. -/
def oneLevelLess (environment : List (String × String)) : List (String × String) :=
  environment.map fun (name, value) =>
    (name, if name = "SHLVL" then toString (decimal value.toList - 1) else value)

/-- Variables for a program of the extended dialect, which is told its path. -/
def withPath (path : String) (environment : List (String × String)) : List (String × String) :=
  if (environment.lookup "_").isSome then
    environment.map fun (name, value) => (name, if name = "_" then path else value)
  else environment ++ [("_", path)]

/-- Starts the program of a name, or says why it cannot be started. -/
def start (below : Interpreter) (name : String) (arguments : List String)
    (environment : List (String × String)) : Effect Nat := do
  giveWay
  match ← lookUp name with
  | .ok (path, program) =>
    remember name path 1
    let dialect := (← own).dialect
    let environment := if (← own).isLast then oneLevelLess environment else environment
    let environment := if dialect.isExtended then withPath path environment else environment
    try runProgram below dialect deepest program name arguments environment
    catch
      | .crashed signal =>
        if ← isAlone then throw (.crashed signal)
        let own ← own
        if own.isLast then throw (.killed own.process signal)
        let isSilent := dialect.isExtended && own.isQuiet
        if signalText signal ≠ "" ∧ !isSilent then writeText 2 (signalText signal ++ "\n")
        return 128 + signal
      | flow => throw flow
  | .error reason => refuseStart name reason

end HistoryExpansion.Shell
