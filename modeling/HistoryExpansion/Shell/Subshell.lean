import HistoryExpansion.Shell.Arithmetic
import HistoryExpansion.Shell.Field
import HistoryExpansion.Shell.Signal
import HistoryExpansion.Shell.Effect

/-!
# Shells within shells

The text of a command is run line by line. A shell that a command starts for a part of itself begins
with all that is its parent's own, and leaves it as it was. How single commands are run is given by
an `Interpreter`, so that these rules stand before those for commands.
-/

namespace HistoryExpansion.Shell

/-- How commands are run and words are replaced one level further down. -/
structure Interpreter where
  /-- Runs a command; with the flag its failure is looked at, and does not end the shell. -/
  run : (guarded : Bool) → Command → Effect Nat
  /-- Goes on with a loop, whose body last ended with a status. -/
  again : (guarded untilHolds : Bool) → (condition body : Command) → (status : Nat) → Effect Nat
  /-- Replaces a word. -/
  expand : Word → Effect (List Bit)

/-! ## Texts of commands -/

/-- Says why a text cannot be read. -/
def complainOf (misreading : Misreading) : Effect Unit := do
  changeOwn fun own => { own with line := misreading.line }
  let own ← own
  let lead ←
    match own.dialect with
    | .plain => lead
    | .extended =>
      let origin := (own.origin.map (· ++ ": ")).getD ""
      pure (own.voice.getD own.name ++ ": " ++ origin ++ "line " ++ toString own.line ++ ": ")
  for reason in misreading.reasons do
    writeText 2 (lead ++ reason ++ "\n")

/-- Says what is to be said of a text in the extended dialect. -/
def warnOf (script : Script) : Effect Unit := do
  let own ← own
  if own.dialect.isExtended then
    for (line, warning) in script.unread.warnings do
      writeText 2 (own.voice.getD own.name ++ ": line " ++ toString line ++ ": " ++ warning ++ "\n")

/-- The names that stand for other texts, if they are to be replaced. -/
def aliasesHere : Effect (List (String × String)) := do
  let own ← own
  if own.dialect.isExtended ∧ !own.options.further.contains "expand_aliases" then return []
  else return own.aliases

/-- The status of a shell that ends because a value was needed, if it is not a shell within
another. -/
def valueNeeded : Nat := 127

/-- The status of a line that was not run to its end. In the extended dialect an error of a word
ends the line, and only the need of a value ends the shell. -/
def droppedLine (flow : Flow) : Effect Nat := do
  match flow with
  | .failed status =>
    if !(← isExtended) ∨ status = valueNeeded then throw flow
    changeOwn fun own => { own with status := status }
    return status
  | flow => throw flow

/-- Runs lines one after the other, and says why there are no further ones. How a line is run may
depend on whether more text follows. -/
def runLines (runLine : Script → Command → Effect Nat) : (most : Nat) → (status : Nat) → Script →
    Effect Nat
  | 0, status, _ => return status
  | most + 1, status, script => do
    match script.next? (← aliasesHere) with
    | none => return status
    | some (.error misreading) =>
      complainOf misreading
      throw (.failed 2)
    | some (.ok (line, script)) => do
      warnOf script
      let status ←
        try runLine script line
        catch flow => droppedLine flow
      runLines runLine most status script

/-- Runs the text of a command. -/
def runText (below : Interpreter) (guarded : Bool) (text : String) : Effect Nat := do
  let script := Script.ofText (← own).dialect text
  runLines (fun _ line => below.run guarded line) script.size 0 script

/-- Runs the command that is set for the end of the shell, if there is one. -/
def atExit (below : Interpreter) (status : Nat) : Effect Nat := do
  match (← own).traps.lookup "EXIT" with
  | none => return status
  | some text =>
    changeOwn fun own => { own with traps := own.traps.filter (·.1 ≠ "EXIT"), status := status }
    try
      let _ ← runText below true text
      return status
    catch
      | .exit status => return status
      | .failed status => return status
      | flow => throw flow

/-- Runs a shell to its end, and gives the status that it ends with. -/
def toEnd (below : Interpreter) (body : Effect Nat) : Effect Nat := do
  let status ←
    try body
    catch
      | .exit status => pure (status % 256)
      | .leave status => pure (status % 256)
      | .failed status => pure status
      | .break _ => pure (← own).status
      | .resume _ => pure (← own).status
      | .killed process signal =>
        let own ← own
        if own.dialect.isExtended ∧ process = own.process ∧ signal ≠ 9 then
          let _ ← atExit below (128 + signal)
        throw (.killed process signal)
      | flow => throw flow
  atExit below status

/-- Runs something whose need of a value is an ordinary failure. -/
def needingLess (body : Effect Nat) : Effect Nat := do
  try body
  catch
    | .failed status => throw (.failed (if status = valueNeeded then 1 else status))
    | flow => throw flow

/-- Runs something to the end of a shell of its own. -/
def toOwnEnd (below : Interpreter) (body : Effect Nat) : Effect Nat := do
  changeOwn fun own =>
    { own with
      traps := own.traps.filter (·.2 = ""), loops := 0, children := [], level := own.level + 1 }
  toEnd below (needingLess body)

/-- Runs something in a shell of its own. -/
def inSubshell (below : Interpreter) (body : Effect Nat) : Effect Nat := do
  let before ← own
  let status ←
    try toOwnEnd below body
    catch
      | .crashed signal =>
        if !before.dialect.isExtended then writeText 2 (signalText signal ++ "\n")
        pure (128 + signal)
      | flow =>
        changeOwn fun _ => before
        throw flow
  changeOwn fun _ => before
  return status

/-- The text without the line breaks that it ends in. -/
def withoutTrailingBreaks (text : List Char) : List Char :=
  (text.reverse.dropWhile (· = '\n')).reverse

/-- The path of a file whose content a command of the extended dialect asks for by a redirection
alone. -/
def contentAsked? (dialect : Dialect) (text : String) : Option Word :=
  match dialect, text.toList.dropWhile (· = ' ') with
  | .extended, '<' :: rest =>
    if rest.head? = some '<' ∨ rest.head? = some '(' then none
    else
      match takeWord .extended (wordFuel rest) .words (dropSpace rest) with
      | .ok (word, rest) => if (dropSpace rest).isEmpty ∧ !word.isEmpty then some word else none
      | .error _ => none
  | _, _ => none

/-- The octets that a command writes. -/
def octetsWritten (below : Interpreter) (text : String) : Effect Octets := do
  giveWay
  let number ← openStream (.sink [])
  let status ← inSubshell below do
    changeOwn fun own =>
      let options := own.options
      { own with
        descriptors := rebind 1 number own.descriptors
        origin := some "command substitution"
        depth := own.depth + 1
        options :=
          { options with endsOnFailure := options.endsOnFailure && !own.dialect.isExtended }
        isQuiet := true }
    runText below false text
  awaitClosed number mostTurns
  changeOwn fun own => { own with substituted := status }
  collected number

/-- The output of a command, as the text that takes its place. -/
def outputOf (below : Interpreter) (text : String) : Effect String := do
  let output ←
    match contentAsked? (← own).dialect text with
    | none => octetsWritten below text
    | some word =>
      let path := textOf (← below.expand word)
      match (← diskHere).read path with
      | .ok octets => pure octets
      | .error error =>
        complain (path ++ ": " ++ error.reason)
        changeOwn fun own => { own with substituted := 1 }
        pure []
  return String.ofList (withoutTrailingBreaks (Utf8.decodeLossy (output.filter (· ≠ 0))))

end HistoryExpansion.Shell
