import HistoryExpansion.Shell.Trap

/-!
# Sending signals

A signal that is sent to the shell itself runs what is set for it, or ends the shell; one that is
sent to another process is left to whoever gives the processes their turns.
-/

namespace HistoryExpansion.Shell

/-- How a signal is sent in the plain dialect. -/
def killUsage : String :=
  "Usage: kill [-s sigspec | -signum | -sigspec] [pid | job]... or\nkill -l [exitstatus]"

/-- How a signal is sent in the extended dialect. -/
def extendedKillUsage : String :=
  "kill: usage: kill [-s sigspec | -n signum | -sigspec] pid | jobspec ... or kill -l [sigspec]\n"

/-- What is wrong with the arguments that name a signal. -/
inductive SignalFault where
  /-- There is no such signal behind an option. -/
  | unknown (name : String)
  /-- There is no such option. -/
  | noOption (word : String)

/-- The signal and the processes that the arguments of a signal name. -/
def signalArguments (number? : String → Option Nat) (arguments : List String) :
    Except SignalFault (Nat × List String) :=
  let named (name : String) (rest : List String) : Except SignalFault (Nat × List String) :=
    match number? name with
    | some signal => .ok (signal, rest)
    | none => .error (.unknown name)
  match arguments with
  | "-s" :: name :: rest => named name rest
  | "-n" :: name :: rest => named name rest
  | "--" :: rest => .ok (15, rest)
  | word :: rest =>
    match word.toList with
    | '-' :: c :: name =>
      match number? (String.ofList (c :: name)) with
      | some signal => .ok (signal, rest.filter (· ≠ "--"))
      | none =>
        if c = 's' then .error (.unknown (String.ofList name)) else .error (.noOption word)
    | _ => .ok (15, arguments)
  | [] => .ok (15, [])

/-- The signal that a number stands for where signals are listed: a number beyond 128 is the status
of a process that a signal ended. -/
def listedSignal? (dialect : Dialect) (number : Nat) : Option Nat :=
  let signal := if number > 128 then number - 128 else number
  if signal > 64 ∨ (signal = 0 ∧ (!dialect.isExtended ∨ number > 0)) then none else some signal

/-- The name of a signal where signals are listed. Some have none. -/
def listedName (dialect : Dialect) (signal : Nat) : String :=
  match dialect with
  | .plain => if signal = 16 then "16" else signalName signal
  | .extended => if signal = 32 ∨ signal = 33 then "" else signalName signal

/-- Shows the signals, or the names of some. -/
def listSignals (words : List String) : Effect Nat := do
  let dialect := (← own).dialect
  if words.isEmpty then
    writeText 1 (if dialect.isExtended then signalTable else signalNames)
  let mut status := 0
  for word in words do
    if word ≠ "" ∧ word.toList.all isDigit then
      match listedSignal? dialect (decimal word.toList) with
      | some signal => writeText 1 (listedName dialect signal ++ "\n")
      | none =>
        failUnlessExtended dialect ("invalid signal number or exit status: " ++ word)
        complain (word ++ ": invalid signal specification")
        status := 1
    else
      failUnlessExtended dialect ("Illegal number: " ++ word)
      match fullSignalNumber? word with
      | some number => writeText 1 (toString number ++ "\n")
      | none =>
        complain (word ++ ": invalid signal specification")
        status := 1
  return status
where
  /-- Fails in the plain dialect. -/
  failUnlessExtended (dialect : Dialect) (message : String) : Effect Unit := do
    if !dialect.isExtended then fail message

/-- Sends the shell's own process a signal. What is set for it is run when the command has ended; a
shell within the shell goes on. -/
def signalOwn (below : Interpreter) (signal : Nat) : Effect Unit := do
  let own ← own
  if own.level > 0 then
    modify fun state => { state with fromWithin := state.fromWithin ++ [signal] }
  else if (own.traps.lookup (signalName signal)).isSome ∧ signal ≠ 9 then
    modify fun state => { state with received := state.received ++ [signal] }
  else receive below signal

/-- Sends a signal to a process, and tells whether it is there. A shell that is told to end while
another one that it started runs ends at once. -/
def signalTo (below : Interpreter) (process signal : Nat) : Effect Bool := do
  let state ← get
  let own := state.own
  match state.jobs.find? (·.process == process) with
  | some job =>
    if job.process = state.process then
      receive below signal
      return true
    let unwaited : Bool :=
      own.children.any fun child => child.process == process && !child.waited
    let isThere : Bool :=
      match job.ended with
      | some (time, _) => time ≥ state.clock && unwaited
      | none => true
    if isThere then send process signal
    return isThere
  | none =>
    if process = 0 ∨ process = own.process ∧ (process ≠ firstProcess ∨ state.process = process) then
      signalOwn below signal
      return true
    else if process = firstProcess then
      if state.process = process then
        if signal = 9 ∨ reactionTo signal = .ends then throw (.killed process signal)
      else send process signal
      return true
    else return false

/-- Sends processes a signal. -/
def kill (below : Interpreter) (arguments : List String) : Effect Nat := do
  let extended ← isExtended
  match arguments with
  | "-l" :: words => return ← listSignals words
  | "-L" :: words => return ← listSignals words
  | _ => pure ()
  let number? := if extended then fullSignalNumber? else signalNumber?
  match signalArguments number? arguments with
  | .error (.unknown name) =>
    failAs ("invalid signal number or name: " ++ name) (name ++ ": invalid signal specification")
  | .error (.noOption word) =>
    failAs ("Illegal option " ++ String.ofList (word.toList.take 2))
      (String.ofList (word.toList.drop 1) ++ ": invalid signal specification")
  | .ok (_, []) =>
    if extended then
      writeText 2 extendedKillUsage
      return 2
    fail killUsage
  | .ok (signal, words) =>
    let mut status := 0
    let mut reached := false
    for word in words do
      if extended ∧ !word.startsWith "%" ∧ (Builtin.signedNumber? word).isNone then
        complain (word ++ ": arguments must be process or job IDs")
        status := 1
      else if word.startsWith "%" then
        match ← Builtin.childAt? word with
        | some child =>
          if extended ∧ (← signalTo below child.process signal) then reached := true
          else
            complainAs "No such process\n" ("(" ++ word ++ ") - No such process")
            status := 1
        | none =>
          complain (word ++ ": no such job")
          status := 1
      else if ← signalTo below (← Builtin.numberArgument word) signal then reached := true
      else
        complainAs "No such process\n" ("(" ++ word ++ ") - No such process")
        status := 1
    return if extended && reached then 0 else status

end HistoryExpansion.Shell
