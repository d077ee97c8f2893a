import HistoryExpansion.Shell.Builtin
import HistoryExpansion.Shell.Signal

/-!
# Commands for later

A shell can be told to run commands when it gets a signal, when it ends, and in the extended dialect
when a command fails.
-/

namespace HistoryExpansion.Shell

/-- The name under which a command is kept that runs on what a word names. -/
def trapName? (dialect : Dialect) (word : String) : Option String :=
  match dialect with
  | .plain => (signalNumber? word).map signalName
  | .extended =>
    if ["ERR", "DEBUG", "RETURN"].contains word.toUpper then some word.toUpper
    else (fullSignalNumber? word).map signalName

/-- The place of a name among the others. -/
def trapRank (name : String) : Nat :=
  (signalNumber? name).getD 100

/-- How a name is shown. -/
def trapTitle (dialect : Dialect) (name : String) : String :=
  if dialect.isExtended ∧ trapRank name ≠ 0 ∧ trapRank name ≠ 100 then "SIG" ++ name else name

/-- Shows the commands that are kept, or those of some names. -/
def showTraps (words : List String) : Effect Nat := do
  let own ← own
  let quotes := if own.dialect.isExtended then singleQuoted else Builtin.inQuotes
  let wanted := words.filterMap (trapName? own.dialect)
  let kept := (own.traps.filter fun (name, _) => words.isEmpty || wanted.contains name).mergeSort
    fun a b => trapRank a.1 ≤ trapRank b.1
  Builtin.printingText (String.join (kept.map fun (name, text) =>
    "trap -- " ++ quotes text ++ " " ++ trapTitle own.dialect name ++ "\n"))

/-- Sets or takes away what is run on each of some signals. -/
def changeTraps (text : Option String) (words : List String) : Effect Nat := do
  let dialect := (← own).dialect
  let mut status := 0
  for word in words do
    match trapName? dialect word with
    | none =>
      if dialect.isExtended then complain (word ++ ": invalid signal specification")
      else writeText 2 ("trap: " ++ word ++ ": bad trap\n")
      status := 1
      if !dialect.isExtended then return 1
    | some name =>
      changeOwn fun own =>
        { own with
          traps := own.traps.filter (·.1 ≠ name) ++ text.toList.map fun text => (name, text) }
  return status

/-- Sets what is run on signals and at the end of the shell, or shows it. -/
def trap (arguments : List String) : Effect Nat := do
  let extended ← isExtended
  let option? := (arguments.head?.map String.toList).bind fun
    | '-' :: c :: _ => if c = '-' then none else some c
    | _ => none
  match option? with
  | some 'l' => if extended then return ← listSignals
  | some 'p' => if extended then return ← showTraps (arguments.drop 1)
  | _ => pure ()
  match option? with
  | some c =>
    if extended then
      return ← Builtin.misusedOption (String.ofList ['-', c])
        "trap [-lp] [[arg] signal_spec ...]"
    else fail ("Illegal option -" ++ String.ofList [c])
  | none => pure ()
  match if arguments.head? = some "--" then arguments.drop 1 else arguments with
  | [] => showTraps []
  | [word] =>
    if extended ∧ (trapName? .extended word).isNone then
      writeText 2 "trap: usage: trap [-lp] [[arg] signal_spec ...]\n"
      return 2
    changeTraps none [word]
  | text :: words =>
    if text = "-" then changeTraps none words
    else if text ≠ "" ∧ text.toList.all isDigit then changeTraps none (text :: words)
    else changeTraps (some text) words
where
  /-- Shows the signals. -/
  listSignals : Effect Nat :=
    Builtin.printingText signalTable

/-- Sends the shell a signal. -/
def receive (below : Interpreter) (signal : Nat) : Effect Unit := do
  let process := (← own).process
  if signal = 9 then throw (.killed process signal)
  match (← own).traps.lookup (signalName signal) with
  | some "" => return
  | some text =>
    let status := (← own).status
    let _ ← runText below true text
    changeOwn fun own => { own with status := status }
  | none =>
    match reactionOf (← isExtended) signal with
    | .ignored => return
    | .ends => throw (.killed process signal)
    | .stops => throw .expired

/-- Passes on the signals that a shell within the shell has sent to it. -/
def passSignals : Effect Unit := do
  let state ← get
  if state.own.level = 0 ∧ !state.fromWithin.isEmpty then
    set { state with received := state.received ++ state.fromWithin, fromWithin := [] }

/-- Answers the signals that have come in, with those that a shell within this one has sent. -/
def answerSignals (below : Interpreter) : Effect Unit := do
  passSignals
  match (← get).received with
  | [] => return
  | signals =>
    modify fun state => { state with received := [] }
    for signal in signals do
      receive below signal

/-- Runs the command that is kept for failures. -/
def atFailure (below : Interpreter) (status : Nat) : Effect Unit := do
  let own ← own
  match own.traps.lookup "ERR" with
  | none => return
  | some text =>
    if own.inFunction then return
    changeOwn fun own => { own with traps := own.traps.filter (·.1 ≠ "ERR"), status := status }
    let _ ← runText below true text
    changeOwn fun now =>
      { now with
        status := status
        traps := if (now.traps.lookup "ERR").isSome then now.traps else ("ERR", text) :: now.traps }

end HistoryExpansion.Shell
