import HistoryExpansion.Shell.Call
import HistoryExpansion.Shell.Clause.Holds

/-!
# Running commands

A command is run in a state of the shell, changes it and gives a status. The rules for each kind of
command are given over an `Interpreter` for the commands within it; `run` ties them together and
stops after a number of levels, so that a command that never ends by itself is stopped too.
-/

namespace HistoryExpansion.Shell

/-! ## Pipelines -/

/-- The status of a command that is stopped because nobody reads what it writes. -/
def unreadStatus : Nat := 141

/-- Runs commands at once, each output being the next one's input, and gives their statuses. A
command that would write without an end is stopped as soon as the next one has read enough. -/
def runStages (below : Interpreter) (began : Nat) : (input : Option Nat) → List Command →
    Effect (List Nat)
  | _, [] => return []
  | input, stage :: rest => do
    modify fun state => { state with clock := began }
    giveWay
    let shell ← own
    let children := if shell.dialect.isExtended then shell.children else []
    let runFrom (output : Option Nat) : Effect Nat :=
      inSubshell below do
        changeOwn fun own =>
          { own with children := children, isQuiet := own.isQuiet || output.isSome }
        input.forM (attach 0)
        output.forM (attach 1)
        below.run false stage
    if rest.isEmpty then return [← runFrom none]
    else
      let before ← own
      let output ← openStream (.sink [])
      let (status, goesOn) ←
        try
          let status ← runFrom (some output)
          pure (status, false)
        catch
          | .endless =>
            changeOwn fun _ => before
            pure (unreadStatus, true)
          | flow => throw flow
      if !goesOn then awaitClosed output mostTurns
      let ended := (← get).clock
      let next ← openStream (.source (← collected output) goesOn)
      let statuses ← runStages below began (some next) rest
      modify fun state => { state with clock := max state.clock ended }
      return status :: statuses

/-- The status of a pipeline whose commands ended with some statuses. -/
def pipelineStatus (anyFails : Bool) (statuses : List Nat) : Nat :=
  let last := statuses.getLast?.getD 0
  if anyFails then (statuses.reverse.find? (· ≠ 0)).getD 0 else last

/-- Remembers the programs that the commands of a pipeline call, as the plain dialect does. -/
def rememberStages (commands : List Command) : Effect Unit := do
  let own ← own
  if own.dialect.isExtended then return
  for command in commands do
    match command with
    | .simple _ _ (word :: _) _ =>
      if isProgramCall own command then
        match ← lookUp (unquotedText word) with
        | .ok (path, _) => remember (unquotedText word) path 0
        | .error _ => pure ()
    | _ => pure ()

/-- Runs a pipeline. -/
def runPipeline (below : Interpreter) (guarded : Bool) (commands : List Command) : Effect Nat := do
  rememberStages commands
  let before ← own
  let statuses ← runStages below (← get).clock none commands
  changeOwn fun _ => { before with statuses := statuses }
  conclude below guarded (pipelineStatus before.options.pipesFail statuses)

/-! ## Commands that are not waited for -/

/-- The descriptors that redirections give other streams. -/
def descriptorsOf (redirects : List Redirect) : List Nat :=
  redirects.flatMap fun redirect =>
    match redirect.kind with
    | .both _ => [1, 2]
    | _ => [redirect.descriptor]

/-- The descriptors that a command does not have from its shell. -/
def Command.ownDescriptors : Command → List Nat
  | .simple _ _ _ redirects => descriptorsOf redirects
  | .redirected _ _ redirects => descriptorsOf redirects
  | _ => []

/-- Assignments, each as it is shown. -/
def shownAssignments (assignments : List Assignment) : List String :=
  assignments.map fun assignment =>
    assignment.name ++ (if assignment.adds then "+=" else "=") ++ unquotedText assignment.value

/-- A command as lists of processes show it. The plain dialect shows only the joints of a
pipeline. -/
def Command.title (dialect : Dialect) : Command → String
  | .simple _ assignments words _ =>
    match dialect with
    | .plain => ""
    | .extended => String.intercalate " " (shownAssignments assignments ++ words.map unquotedText)
  | .pipeline commands => String.intercalate " | " (titles dialect commands)
  | .both first second =>
    if dialect.isExtended then title dialect first ++ " && " ++ title dialect second else ""
  | .either first second =>
    if dialect.isExtended then title dialect first ++ " || " ++ title dialect second else ""
  | .subshell body => if dialect.isExtended then "( " ++ title dialect body ++ " )" else ""
  | _ => ""
where
  /-- The commands of a list, each as it is shown. -/
  titles (dialect : Dialect) : List Command → List String
    | [] => []
    | command :: commands => title dialect command :: titles dialect commands

/-- A number for the list of what a shell does not wait for: the least one that is free, or in the
extended dialect the next one. -/
def nextNumber (dialect : Dialect) (children : List Child) : Nat :=
  let taken := children.map Child.number
  match dialect with
  | .plain => ((List.range' 1 (children.length + 1)).find? (!taken.contains ·)).getD 1
  | .extended => taken.foldl max 0 + 1

/-- Starts a command that is not waited for. -/
def runBackground (command : Command) : Effect Nat := do
  let state ← get
  let own := state.own
  let process := state.processes + 1
  let other := command.ownDescriptors
  let kept := own.descriptors.filter fun (descriptor, _) => !other.contains descriptor
  let job : Job :=
    { process := process, streams := kept.map Prod.snd, isCall := isProgramCall own command }
  set { state with processes := process, jobs := job :: state.jobs }
  fork process command
  let hasEnded (child : Child) : Bool :=
    state.jobs.any fun job => job.process == child.process && job.ended.isSome
  let children := own.children.filter fun child =>
    !((child.waited || own.dialect.isExtended) && hasEnded child)
  let child : Child :=
    { number := nextNumber own.dialect children, process := process
      title := command.title own.dialect }
  changeOwn fun own =>
    { own with
      children := child :: if own.dialect.isExtended then own.children else children
      lastChild := some process }
  return 0

/-! ## Loops -/

/-- Runs the body of a loop: gives its status and whether the loop goes on. -/
def runBody (below : Interpreter) (guarded : Bool) (body : Command) : Effect (Nat × Bool) := do
  let loops := (← own).loops
  changeOwn fun own => { own with loops := loops + 1 }
  let restore : Effect Unit := changeOwn fun own => { own with loops := loops }
  let result ←
    try
      let status ← below.run guarded body
      pure (status, true)
    catch
      | .break levels => if levels ≤ 1 then pure (0, false) else throw (.break (levels - 1))
      | .resume levels => if levels ≤ 1 then pure (0, true) else throw (.resume (levels - 1))
      | flow =>
        restore
        throw flow
  restore
  return result

/-- Goes on with a loop. -/
def runLoop (below : Interpreter) (guarded untilHolds : Bool) (condition body : Command)
    (status : Nat) : Effect Nat := do
  let found ← below.run true condition
  if (found == 0) == untilHolds then return status
  match ← runBody below guarded body with
  | (status, true) => below.again guarded untilHolds condition body status
  | (status, false) => return status

/-- Runs a body for each of some texts. -/
def runEach (below : Interpreter) (guarded : Bool) (name title : String) (body : Command) :
    (status : Nat) → List String → Effect Nat
  | status, [] => return status
  | _, text :: rest => do
    traceExtended below title
    assign name text
    match ← runBody below guarded body with
    | (status, true) => runEach below guarded name title body status rest
    | (status, false) => return status

/-! ## Arithmetic -/

/-- Evaluates an expression that is a command. Gives nothing if it cannot be evaluated. -/
def evaluateAlone (below : Interpreter) (line : Nat) (expression : Word) :
    Effect (Option Int64) := do
  changeOwn fun own => { own with line := line }
  traceLine below ("(( " ++ unquotedText expression ++ " ))")
  calledAs "((" do
    try
      let value ← arithmeticValue (textOf (← below.expand expression))
      return some value
    catch
      | .failed _ => return none
      | flow => throw flow

/-- Runs a loop that counts: an expression comes first, then the body is run as long as another is
not zero, with a third one after each time. -/
def runCounted (below : Interpreter) (guarded : Bool) (line : Nat) (first condition next : Word)
    (body : Command) : Effect Nat := do
  let isBlank (word : Word) : Bool := (unquotedText word).toList.all fun c => c == ' ' || c == '\t'
  let begun ← if isBlank first then pure (some 0) else evaluateAlone below line first
  let holds ←
    if isBlank condition then pure (some 1)
    else if begun.isNone then pure none
    else evaluateAlone below line condition
  match begun, holds with
  | some _, some value =>
    if value = 0 then return 0
    let step := if isBlank next then [] else [Command.arithmetic line next]
    let test := if isBlank condition then [Command.simple line [] [[.text ":" false]] []]
      else [Command.arithmetic line condition]
    match ← runBody below guarded body with
    | (status, true) => below.again guarded false (.sequence (step ++ test)) body status
    | (status, false) => return status
  | _, _ => return 1

/-! ## Choices -/

/-- The cases from the first one on whose patterns match a text. -/
def casesFrom (below : Interpreter) (text : List Char) :
    List (List Word × Command × CaseEnd) → Effect (List (List Word × Command × CaseEnd))
  | [] => return []
  | (patterns, body, ending) :: rest => do
    let found ← patterns.mapM fun pattern => do return glyphsOf (← below.expand pattern)
    let folds ← Clause.foldsCase
    let matching (pattern : List Glyph) : Bool :=
      fitsPattern pattern text ||
        (folds && fitsPattern (pattern.map fun glyph => { glyph with char := glyph.char.toLower })
          (text.map Char.toLower))
    if found.any matching then return (patterns, body, ending) :: rest
    else casesFrom below text rest

/-- Runs the commands of cases, the first of which is chosen. -/
def runCases (below : Interpreter) (guarded : Bool) (text : List Char) : (fuel : Nat) →
    (status : Nat) → List (List Word × Command × CaseEnd) → Effect Nat
  | 0, status, _ => return status
  | _, status, [] => return status
  | fuel + 1, _, (_, body, ending) :: rest => do
    let status ← below.run guarded body
    match ending with
    | .done => return status
    | .fallThrough => runCases below guarded text fuel status rest
    | .goOn => runCases below guarded text fuel status (← casesFrom below text rest)

/-! ## Commands -/

/-- Runs commands one after the other. -/
def runAll (below : Interpreter) (guarded : Bool) : (status : Nat) → List Command → Effect Nat
  | status, [] => return status
  | _, command :: rest => do
    let status ← below.run guarded command
    runAll below guarded status rest

/-- Defines a function. -/
def define (name : String) (body : Command) : Effect Unit :=
  changeOwn fun own =>
    let usual := if own.origin.isSome then "environment" else own.name
    { own with
      functions := rebind name body own.functions
      voices := rebind name (own.voice.getD usual) own.voices }

/-- Runs a command, given how those within it are run. -/
def runWith (below : Interpreter) (guarded : Bool) (command : Command) : Effect Nat := do
  if (← own).options.onlyReads then return 0
  match command with
  | .simple line assignments words redirects =>
    runCall below guarded line assignments words redirects
  | .pipeline commands => runPipeline below guarded commands
  | .negated command =>
    let status ← below.run true command
    conclude below true (if status = 0 then 1 else 0)
  | .both first second =>
    let status ← below.run true first
    if status = 0 then below.run guarded second else return status
  | .either first second =>
    let status ← below.run true first
    if status = 0 then return status else below.run guarded second
  | .sequence commands => runAll below guarded 0 commands
  | .background command => conclude below true (← runBackground command)
  | .subshell body => concludeAlone below guarded (← inSubshell below (below.run guarded body))
  | .conditional condition success failure =>
    let status ← below.run true condition
    let status ← below.run guarded (if status = 0 then success else failure)
    conclude below true status
  | .loop untilHolds condition body =>
    conclude below true (← runLoop below guarded untilHolds condition body 0)
  | .forEach name words body =>
    let texts ←
      match words with
      | some words => expandWords below words
      | none => pure (← own).arguments
    let shown := (words.getD [[.text "\"$@\"" false]]).map unquotedText
    let title := "for " ++ name ++ " in " ++ String.intercalate " " shown
    conclude below true (← runEach below guarded name title body 0 texts)
  | .counted line first condition next body =>
    conclude below true (← runCounted below guarded line first condition next body)
  | .choice word cases =>
    let text ← expandText below word
    traceExtended below ("case " ++ unquotedText word ++ " in")
    match ← casesFrom below text.toList cases with
    | [] => conclude below true 0
    | found => runCases below guarded text.toList (cases.length + 1) 0 found
  | .function name body =>
    define name body
    conclude below true 0
  | .redirected line command redirects =>
    changeOwn fun own => { own with line := line }
    let failing := if ← isExtended then 1 else 2
    let channels := (← own).channels
    let status ← withRedirections below redirects (pure failing) (below.run guarded command)
    finishChannels below channels
    conclude below guarded status
  | .condition line clause =>
    changeOwn fun own => { own with line := line }
    concludeAlone below guarded (← clause.status below)
  | .arithmetic line expression =>
    let value ← evaluateAlone below line expression
    concludeAlone below guarded (if value.getD 0 = 0 then 1 else 0)

mutual

/-- Runs a command down to so many levels. -/
def run : (levels : Nat) → (guarded : Bool) → Command → Effect Nat
  | 0, _, _ => throw .endless
  | levels + 1, guarded, command =>
    runWith ⟨run levels, again levels, expand levels⟩ guarded command

/-- Goes on with a loop down to so many levels. -/
def again : (levels : Nat) → (guarded untilHolds : Bool) → (condition body : Command) →
    (status : Nat) → Effect Nat
  | 0, _, _, _, _, _ => throw .endless
  | levels + 1, guarded, untilHolds, condition, body, status =>
    runLoop ⟨run levels, again levels, expand levels⟩ guarded untilHolds condition body status

/-- Replaces a word down to so many levels. -/
def expand : (levels : Nat) → Word → Effect (List Bit)
  | 0, _ => throw .endless
  | levels + 1, word => expandWord ⟨run levels, again levels, expand levels⟩ word

end

/-- How commands are run down to so many levels. -/
def interpreter (levels : Nat) : Interpreter :=
  ⟨run levels, again levels, expand levels⟩

end HistoryExpansion.Shell
