import HistoryExpansion.Shell.Builtin

/-!
# Last calls

A shell need not stay for the last program that it calls: in the extended dialect such a program
takes its place, so that a signal that ends the program ends the shell.
-/

namespace HistoryExpansion.Shell

/-- Whether a command is the call of a program. -/
def isProgramCall (own : Own) : Command → Bool
  | .simple _ _ words _ =>
    match words.map unquotedText with
    | "command" :: name :: _ => !name.startsWith "-" && !Builtin.isBuiltin own.dialect name
    | name :: _ => (own.functions.lookup name).isNone && !Builtin.isBuiltin own.dialect name
    | [] => false
  | _ => false

mutual

/-- Runs a command behind which nothing follows. If it is the call of a program in the extended
dialect, the program takes the place of the shell, unless the shell still has something to do. -/
def runLast (below : Interpreter) : Command → Effect Nat
  | .sequence commands => runLastOf below commands
  | .both first second => do
    let status ← below.run true first
    if status = 0 then runLast below second else return status
  | .either first second => do
    let status ← below.run true first
    if status = 0 then return status else runLast below second
  | command => do
    let own ← own
    let redirects :=
      match command with
      | .simple _ _ _ redirects => redirects
      | _ => []
    if isProgramCall own command ∧ redirects.isEmpty ∧ own.traps.isEmpty then
      changeOwn fun own => { own with isLast := true }
    below.run false command

/-- Runs commands behind which nothing follows. -/
def runLastOf (below : Interpreter) : List Command → Effect Nat
  | [] => return 0
  | [command] => runLast below command
  | command :: commands => do
    let _ ← below.run false command
    runLastOf below commands

end

/-- Runs the text that a shell was started with. -/
def runOwnText (below : Interpreter) (text : String) : Effect Nat := do
  let own ← own
  if !own.dialect.isExtended ∨ own.origin ≠ some "-c" then runText below false text
  else
    let script := Script.ofText own.dialect text
    let runLine (rest : Script) (line : Command) : Effect Nat := do
      if (rest.next? (← aliasesHere)).isNone then runLast below line else below.run false line
    runLines runLine script.size 0 script

end HistoryExpansion.Shell
