import HistoryExpansion.Shell.Builtin.Directory
import HistoryExpansion.Shell.Builtin.Flow
import HistoryExpansion.Shell.Builtin.Job
import HistoryExpansion.Shell.Builtin.Print
import HistoryExpansion.Shell.Builtin.Reading
import HistoryExpansion.Shell.Builtin.Setting

/-!
# Commands of the shell itself

The commands that change the shell or read its state, and that run no other command, by their names.
-/

namespace HistoryExpansion.Shell.Builtin

/-- The commands that only the extended dialect has. -/
def extended? (name : String) : Option Builtin :=
  match name with
  | "declare" => some (declareAll false)
  | "typeset" => some (declareAll false)
  | "local" => some (declareAll true)
  | "let" => some evaluateAll
  | "shopt" => some furtherSettings
  | "mapfile" => some readAllLines
  | "readarray" => some readAllLines
  | "pushd" => some pushDirectory
  | "popd" => some popDirectory
  | "dirs" => some directories
  | "disown" => some disown
  | "enable" => some fun _ => return 0
  | "history" => some fun _ => return 0
  | _ => none

/-- The commands of every shell. -/
def plain? (name : String) : Option Builtin :=
  match name with
  | ":" => some fun _ => return 0
  | "true" => some fun _ => return 0
  | "false" => some fun _ => return 1
  | "exit" => some exit
  | "return" => some leave
  | "break" => some (leaveLoops .break)
  | "continue" => some (leaveLoops .resume)
  | "echo" => some echo
  | "printf" => some printf
  | "pwd" => some pwd
  | "test" => some (test "test")
  | "[" => some (test "[")
  | "cd" => some changeDirectory
  | "chdir" => some changeDirectory
  | "export" =>
    some (mark "export" Binding.exported (fun binding => { binding with exported := true })
      fun binding => { binding with exported := false })
  | "readonly" =>
    some (mark "readonly" Binding.constant (fun binding => { binding with constant := true }) id)
  | "unset" => some unset
  | "local" => some makeLocal
  | "set" => some set
  | "shift" => some shift
  | "read" => some read
  | "getopts" => some readOption
  | "wait" => some wait
  | "umask" => some umask
  | "ulimit" => some limits
  | "alias" => some setAliases
  | "unalias" => some removeAliases
  | "fg" => some goOn
  | "bg" => some goOn
  | "jobs" => some jobs
  | "times" =>
    let line := "0m0.000000s 0m0.000000s\n"
    let short := "0m0.000s 0m0.000s\n"
    some fun _ => do
      if ← isExtended then printingText (short ++ short) else printingText (line ++ line)
  | _ => none

/-- The command of a name. -/
def find? (dialect : Dialect) (name : String) : Option Builtin :=
  match dialect with
  | .plain => plain? name
  | .extended => if name = "chdir" then none else (extended? name).or (plain? name)

/-- The commands that run others. -/
def runners (dialect : Dialect) : List String :=
  [".", "command", "eval", "exec", "hash", "kill", "trap", "type"] ++
    match dialect with
    | .plain => []
    | .extended => ["source", "builtin"]

/-- Whether a name is a command of the shell itself. -/
def isBuiltin (dialect : Dialect) (name : String) : Bool :=
  (find? dialect name).isSome || (runners dialect).contains name

/-- The commands whose failures end a shell of the plain dialect, and which keep the assignments
before them. -/
def isSpecial (name : String) : Bool :=
  [".", ":", "break", "continue", "eval", "exec", "exit", "export", "local", "readonly", "return",
    "set", "shift", "times", "trap", "unset"].contains name

/-- The commands whose arguments may be assignments. -/
def takesAssignments (dialect : Dialect) (name : String) : Bool :=
  ["export", "readonly", "local"].contains name ||
    (dialect.isExtended && ["declare", "typeset"].contains name)

end HistoryExpansion.Shell.Builtin
