import HistoryExpansion.Shell.Builtin.Basic
import HistoryExpansion.Shell.Signal

/-!
# Commands for processes that are not waited for

A shell lists the commands that it did not wait for. It can wait for them after all, show the list,
or drop some from it. A process is named by its number, or behind a percent sign by its place in the
list.
-/

namespace HistoryExpansion.Shell.Builtin

/-! ## Naming processes -/

/-- The entry of the list that is meant by what stands behind a percent sign: the latest one, the
one before it, one with a number, or in the extended dialect one whose command starts with a
text. -/
def namedChild? (dialect : Dialect) (children : List Child) (place : List Char) : Option Child :=
  match place with
  | [] => children.head?
  | ['%'] => children.head?
  | ['+'] => children.head?
  | ['-'] =>
    match dialect with
    | .plain => children[1]?
    | .extended => (children[1]?).or children.head?
  | place =>
    if place.all isDigit then children.find? fun child => child.number == decimal place
    else if dialect.isExtended then
      children.find? fun child => place.isPrefixOf child.title.toList
    else none

/-- Why nothing in the list is meant by a word. -/
def missingChild (word : String) : String :=
  if ["%", "%%", "%+"].contains word then "No current job"
  else if word = "%-" then "No previous job"
  else "No such job: " ++ word

/-- The entry of the list that is meant by a word, before which the percent sign may be missing. It
is an error of the plain dialect if there is none. -/
def childAt? (word : String) : Effect (Option Child) := do
  let own ← own
  let place := if word.startsWith "%" then word.toList.drop 1 else word.toList
  match namedChild? own.dialect own.children place with
  | some child => return some child
  | none => if own.dialect.isExtended then return none else fail (missingChild word)

/-- The process of a number, if it is one that nobody has to wait for. -/
def jobOf? (process : Nat) : Effect (Option Job) := do
  return (← get).jobs.find? (·.process == process)

/-- Changes the entries of some processes in the list. -/
def changeChildren (processes : List Nat) (change : Child → Child) : Effect Unit :=
  changeOwn fun own =>
    { own with
      children := own.children.map fun child =>
        if processes.contains child.process then change child else child }

/-! ## Waiting -/

/-- Waits until a check of the processes holds, or until a signal comes in, and tells whether the
check holds. -/
def waitUntil (isOver : List Job → Bool) : (turns : Nat) → Effect Bool
  | 0 => throw .endless
  | turns + 1 => do
    let state ← get
    let isDone := isOver state.jobs
    let interrupted : Bool := !state.received.isEmpty
    if interrupted && (state.own.dialect.isExtended || !isDone) then return false
    if isDone then return true
    awaitOthers
    waitUntil isOver turns

/-- The status of a wait that a signal ended. -/
def interruptedStatus : Effect Nat := do
  return 128 + (← get).received.headD 0

/-- Whether all of some processes have ended. -/
def haveEnded (processes : List Nat) (jobs : List Job) : Bool :=
  jobs.all fun job => job.ended.isSome || !processes.contains job.process

/-- Waits for all that is in the list. -/
def waitForAll : Effect Nat := do
  let own ← own
  let processes := own.children.map Child.process
  if ← waitUntil (haveEnded processes) mostTurns then
    if own.dialect.isExtended then
      changeOwn fun own => { own with children := [] }
    else changeChildren processes fun child => { child with waited := true }
    return 0
  else interruptedStatus

/-- Waits for one process, and gives its status. In the plain dialect it is said if a signal ends
the process, unless that was known before. -/
def waitForOne (process : Nat) : Effect Nat := do
  let began := (← get).clock
  let waited := (← own).children.any fun child => child.process == process && child.waited
  if ← waitUntil (haveEnded [process]) mostTurns then
    changeChildren [process] fun child => { child with waited := true }
    match ← jobOf? process with
    | some { ended := some (time, status), signal, .. } =>
      if !(← isExtended) ∧ !waited ∧ time ≥ began then
        let text := (signal.map signalText).getD ""
        if text ≠ "" then writeText 2 (text ++ "\n")
      return status
    | _ => return 0
  else interruptedStatus

/-- Waits for the first in the list to end. -/
def waitForFirst (processes : List Nat) : Effect Nat := do
  if processes.isEmpty then return 127
  let endedOf (jobs : List Job) : List (Nat × Nat × Nat) :=
    jobs.reverse.filterMap fun job =>
      if processes.contains job.process then job.ended.map fun ended => (job.process, ended)
      else none
  if ← waitUntil (fun jobs => !(endedOf jobs).isEmpty) mostTurns then
    let found := (endedOf (← get).jobs).mergeSort fun a b => a.2.1 ≤ b.2.1
    match found.head? with
    | some (process, _, status) =>
      changeChildren [process] fun child => { child with waited := true }
      return status
    | none => return 127
  else interruptedStatus

/-- How the command that waits is called. -/
def waitUsage : String :=
  "wait [-fn] [-p var] [id ...]"

/-- The process that a word names, or the status that it leads to if it names none. -/
def waitedFor (word : String) : Effect (Except Nat Nat) := do
  let own ← own
  if word.startsWith "%" then
    match ← childAt? word with
    | some child => return .ok child.process
    | none =>
      complain (word ++ ": no such job")
      return .error 127
  else
    match own.dialect, signedNumber? word with
    | .extended, none =>
      complain ("\x60" ++ word ++ "': not a pid or valid job spec")
      return .error 1
    | _, _ =>
      let process ← numberArgument word
      if own.children.any (·.process == process) then return .ok process
      if own.dialect.isExtended then
        complain ("pid " ++ word ++ " is not a child of this shell")
      return .error 127

/-- Waits for processes one after the other, and gives the status of the last one. -/
def waitForEach : (status : Nat) → List String → Effect Nat
  | status, [] => return status
  | status, word :: words => do
    match ← waitedFor word with
    | .ok process => waitForEach (← waitForOne process) words
    | .error missing =>
      waitForEach (if (← isExtended) ∨ status = 0 then missing else status) words

/-- Waits for the first of the processes that words name, or of all that are in the list. -/
def waitForAny (words : List String) : Effect Nat := do
  let children := (← own).children
  if words.isEmpty then
    waitForFirst ((children.filter (!·.waited)).map Child.process)
  else
    let mut processes := []
    for word in words do
      let found := if word.startsWith "%" then namedChild? .extended children (word.toList.drop 1)
        else children.find? fun child => toString child.process == word
      match found with
      | some child => processes := processes ++ [child.process]
      | none => complain (word ++ ": no such job")
    waitForFirst processes

/-- What the options of the extended dialect ask of the command that waits. -/
structure WaitOptions where
  /-- Whether it waits for the first process only. -/
  first : Bool := false
  /-- The variable that is set to the process that was waited for. -/
  name : Option String := none

/-- Reads options, and gives the words behind them or the letter of one that there is not. -/
def readWaitOptions (options : WaitOptions) : List String →
    Except Char (WaitOptions × List String)
  | "-n" :: words => readWaitOptions { options with first := true } words
  | "-f" :: words => readWaitOptions options words
  | "-p" :: name :: words => readWaitOptions { options with name := some name } words
  | "--" :: words => .ok (options, words)
  | word :: words =>
    match word.toList with
    | '-' :: c :: _ => .error c
    | _ => .ok (options, word :: words)
  | [] => .ok (options, [])

/-- Waits as the options of the extended dialect ask for it. -/
def waitWith (arguments : List String) : Effect Nat := do
  match readWaitOptions {} arguments with
  | .error c => misusedOption (String.ofList ['-', c]) waitUsage
  | .ok (options, words) =>
    let before := (← own).children
    let status ←
      if options.first then waitForAny words
      else if words.isEmpty then waitForAll
      else waitForEach 0 words
    let waited := (← own).children.filter fun child => child.waited && !before.contains child
    let process? := match waited.head? with
      | some child => some (toString child.process)
      | none => words.getLast?
    match options.name, process? with
    | some name, some process => assign name process
    | _, _ => pure ()
    return status

/-- Waits for the commands that were not waited for. -/
def wait : Builtin := fun arguments => do
  if ← isExtended then waitWith arguments
  else
    let words := if arguments.head? = some "--" then arguments.drop 1 else arguments
    match arguments.head?.map String.toList with
    | some ('-' :: c :: _) =>
      if c ≠ '-' then fail ("Illegal option -" ++ String.ofList [c])
    | _ => pure ()
    if words.isEmpty then waitForAll else waitForEach 0 words

/-! ## The list -/

/-- What is said of how a process ended. -/
def endingText (status : Nat) (signal : Option Nat) : String :=
  match signal with
  | some signal => signalText signal
  | none => if status = 0 then "Done" else "Done(" ++ toString status ++ ")"

/-- The line that shows an entry of the list, whose place among the latest ones is given, with its
process if that is asked for. -/
def childLine (dialect : Dialect) (place : Nat) (withProcess : Bool) (child : Child) (job : Job) :
    String :=
  let mark := if place = 0 then "+" else if place = 1 then "-" else " "
  let state := match job.ended with
    | none => "Running"
    | some (_, status) => endingText status job.signal
  let process := toString child.process ++ " "
  match dialect with
  | .plain =>
    let front := "[" ++ toString child.number ++ "] " ++ mark ++ " "
    filledTo 33 (front ++ (if withProcess then process else "") ++ state) ++ child.title ++ "\n"
  | .extended =>
    "[" ++ toString child.number ++ "]" ++ mark ++ (if withProcess then " " ++ process else "  ") ++
      filledTo 24 state ++ child.title ++ " &\n"

/-- Shows the list. What has ended is shown once by the plain dialect, and not at all by the
extended one. -/
def jobs : Builtin := fun arguments => do
  giveWay
  let state ← get
  let own := state.own
  let extended := own.dialect.isExtended
  let isOption (word : String) : Bool := word.startsWith "-" && word ≠ "-" && word ≠ "--"
  let letters := (arguments.takeWhile isOption).flatMap fun word => word.toList.drop 1
  let words := (arguments.dropWhile isOption).filter (· ≠ "--")
  match letters.find? fun c => !(if extended then "lprsnx" else "lp").toList.contains c with
  | some c =>
    if extended then
      return ← misusedOption (String.ofList ['-', c])
        "jobs [-lnprs] [jobspec ...] or jobs -x command [args]"
    else fail ("Illegal option -" ++ String.ofList [c])
  | none => pure ()
  let mut chosen := own.children
  if !words.isEmpty then
    chosen := []
    for word in words do
      match ← childAt? word with
      | some child => chosen := chosen ++ [child]
      | none =>
        complain (word ++ ": no such job")
        return 1
  if "snx".toList.any letters.contains then return 0
  let withProcess := letters.contains 'l'
  let mut lines := []
  let mut left := own.children
  for child in chosen do
    match state.jobs.find? (·.process == child.process) with
    | none => pure ()
    | some job =>
      let place := left.findIdx (·.process == child.process)
      let line := if letters.contains 'p' then toString child.process ++ "\n"
        else childLine own.dialect place withProcess child job
      if job.ended.isNone ∨ !extended then lines := lines ++ [line]
      if job.ended.isSome then left := left.filter (·.process ≠ child.process)
  if !extended then
    changeOwn fun own => { own with children := left }
  printingText (String.join (if extended then lines.reverse else lines))

/-- Drops entries from the list. -/
def disown : Builtin := fun arguments => do
  let own ← own
  let words := arguments.filter fun word => word ∉ ["-h", "-r", "--"]
  if words.contains "-a" then
    changeOwn fun own => { own with children := [] }
    return 0
  let mut status := 0
  for word in if words.isEmpty then ["%"] else words do
    let found :=
      if word.startsWith "%" then namedChild? .extended own.children (word.toList.drop 1)
      else own.children.find? fun child => toString child.process == word
    match found with
    | some child =>
      changeOwn fun own =>
        { own with children := own.children.filter (·.process ≠ child.process) }
    | none =>
      complain ((if words.isEmpty then "current" else word) ++ ": no such job")
      status := 1
  return status

/-- Complains that no command is there to go on with. -/
def goOn : Builtin := fun arguments => do
  if ← isExtended then
    complain "no job control"
    return 1
  let word? := arguments.head?
  let word := word?.getD "%"
  let _ ← childAt? word
  fail ("job " ++ word?.getD "(null)" ++ " not created under job control")

end HistoryExpansion.Shell.Builtin
