import HistoryExpansion.Shell.Program.Awk.Machine
import HistoryExpansion.Shell.Utility.Shown

/-!
# Running programs

Expressions are evaluated and statements are done, with so many steps at most. The rules are gone
through for each record.
-/

namespace HistoryExpansion.Shell.Awk

/-- A place whose parts were evaluated. -/
inductive Spot where
  /-- A variable. -/
  | named (name : String)
  /-- A field. -/
  | field (index : Nat)
  /-- A place of a table. -/
  | item (table : Nat) (key : Key)

/-- What a place holds. -/
def Spot.value (job : Job) : Spot → Run Value
  | named name => variableValue job name
  | field index => fieldAt job index
  | item table key => changeTable table fun table => table.get key

/-- Sets a place. -/
def Spot.set (job : Job) (value : Value) : Spot → Run Unit
  | named name => setVariable job name value
  | field index => setField job index value
  | item table key => changeTable table fun table => ((), table.set key value)

/-- What an operation gives. -/
def Operation.apply (operation : Operation) (a b : Float) : Float :=
  match operation with
  | plus => a + b
  | minus => a - b
  | times => a * b
  | divide => a / b
  | power => Float.pow a b
  | modulo =>
    match floatingOf a, floatingOf b with
    | .finite negative size, .finite _ divisor =>
      if divisor = 0 then 0.0 / 0.0 else floatOf (.finite negative (size % divisor))
    | .finite _ _, .infinite _ => a
    | _, _ => 0.0 / 0.0

/-- A number with its fraction cut off. -/
def wholePart (number : Float) : Float :=
  if number < 0.0 then number.ceil else number.floor

/-- The key that values stand for. -/
def keyOf (values : List Value) : Run Key := do
  match values with
  | [.number n] =>
    match integerOf? n with
    | some whole => return .number whole
    | none => return .text (numberText (← convertFormat) n)
  | values =>
    let texts ← values.mapM textOfValue
    return .text ((← plainText "SUBSEP").intercalate texts)

/-- Prints values in a format. -/
def formatValues (job : Job) (name : String) (values : List Value) : Run (List Char) := do
  match values with
  | [] => return []
  | format :: values =>
    let format := (← textOfValue format).takeWhile (· ≠ '\x00')
    let (shown, fault) := printed (← convertFormat) (format.length + 1) 0 format values
    match fault with
    | none => return shown
    | some fault =>
      if name = "printf" then emit job none shown
      let quoted := name ++ "(\"" ++ String.ofList format ++ "\")"
      failAtRecord job
        (match fault with
        | .tooFew => "not enough arguments passed to " ++ quoted
        | .improper number =>
          "improper conversion(number " ++ toString number ++ ") in " ++ quoted)

/-- A text as it is shown, with the output's format for numbers. -/
def outputText (value : Value) : Run (List Char) := do
  match value with
  | .number n => return numberText (← plainText "OFMT") n
  | value => return value.toText []

/-- The moment that six numbers write. -/
def momentAt (text : List Char) : Option Moment :=
  match (cutAtBlanks text []).map fun word => truncated (numberAt word) with
  | year :: month :: day :: hour :: minute :: second :: _ =>
    let start : Moment := { year := year, month := 1, day := 1 }
    let days := Moment.dayNumber year month.toNat 1 - Moment.dayNumber year 1 1 + (day - 1)
    some (Moment.ofSeconds
      (start.toSeconds + days * 86400 + hour * 3600 + minute * 60 + second))
  | _ => none

/-- The next random number, and what the one after it comes from. -/
def randomNumber (seed : Nat) : Float × Nat :=
  let seed := (seed * 6364136223846793005 + 1442695040888963407) % 2 ^ 64
  (Float.ofNat (seed / 2 ^ 11) / 9007199254740992.0, seed)

/-- What a function gives that only needs its values. -/
def knownValue (job : Job) (name : String) (values : List Value) : Run Value := do
  let first := values.headD .unset
  let number := first.toNumber
  match name with
  | "length" => return .ofNat (← textOfValue first).length
  | "substr" =>
    let text ← textOfValue first
    let start := truncated ((values[1]?).getD Value.unset).toNumber
    let length := (values[2]?).map fun value => truncated value.toNumber
    return .text (partOf text start length)
  | "index" =>
    let text ← textOfValue first
    let wanted ← textOfValue ((values[1]?).getD Value.unset)
    return .ofNat (placeOf wanted text 1)
  | "sprintf" => return .text (← formatValues job "sprintf" values)
  | "sin" => return .number number.sin
  | "cos" => return .number number.cos
  | "atan2" => return .number (Float.atan2 number ((values[1]?).getD Value.unset).toNumber)
  | "exp" => return .number number.exp
  | "log" => return .number number.log
  | "sqrt" => return .number number.sqrt
  | "int" => return .number (wholePart number)
  | "rand" =>
    let (result, seed) := randomNumber (← get).seed
    modify fun machine => { machine with seed := seed }
    return .number result
  | "srand" =>
    let now := (presentMoment (← diskHere)).toSeconds
    let seed := if values.isEmpty then Value.number (Float.ofInt now) else first
    let before := (← get).seedSet
    modify fun machine =>
      { machine with seedSet := seed, seed := (truncated seed.toNumber).toNat }
    return before
  | "tolower" => return .text ((← textOfValue first).map Char.toLower)
  | "toupper" => return .text ((← textOfValue first).map Char.toUpper)
  | "system" =>
    flushAll job
    let (_, status) ← runCommand job "sh" (← textOfValue first) none false
    return .ofNat status
  | "close" =>
    let name := String.ofList (← textOfValue first)
    let channels :=
      (← takeChannel (outputName name) false).toList ++ (← takeChannel name true).toList
    let statuses ← channels.mapM (closeChannel job)
    return (statuses.getLast?.map Value.ofNat).getD (.number (-1.0))
  | "fflush" =>
    flushAll job
    return .ofNat 0
  | "systime" => return .number (Float.ofInt (presentMoment (← diskHere)).toSeconds)
  | "mktime" =>
    match momentAt (← textOfValue first) with
    | some moment => return .number (Float.ofInt moment.toSeconds)
    | none => return .number (-1.0)
  | "strftime" =>
    let format ← if values.isEmpty then pure "%c".toList else textOfValue first
    let now := presentMoment (← diskHere)
    let moment :=
      (values[1]?).elim now fun value => Moment.ofSeconds (truncated value.toNumber)
    return .text (moment.formatted (String.ofList format)).toList
  | _ => return .unset

/-- The channel that records of a file or of a command are read from. -/
def sourceChannel (job : Job) (origin : Origin) (name : String) : Run (Option Channel) := do
  match ← takeChannel name true with
  | some channel => return some channel
  | none =>
    if origin = .command then
      flushAll job
      let (output, status) ← runCommand job "/bin/sh" name.toList none true
      return some { name := name, kind := .source ⟨charsIn output, false⟩ status }
    else
      match ← openSource job name with
      | .ok source => return some { name := name, kind := .source source 0 }
      | .error _ => return none

/-- The next record of a file or of a command: none if there is none left, and nothing at all if it
cannot be read. -/
def recordFrom (job : Job) (origin : Origin) (name : String) :
    Run (Option (Option (List Char))) := do
  match ← sourceChannel job origin name with
  | none => return none
  | some channel =>
    match channel.kind with
    | .source source status =>
      let (record, source) ← readRecord job mostSteps source
      putChannel { channel with kind := .source source status }
      return some record
    | _ => return none

mutual

/-- Evaluates an expression. -/
def evaluate (job : Job) : (fuel : Nat) → Expression → Run Value
  | 0, _ => throwThe Flow .endless
  | fuel + 1, expression => do
    match expression with
    | .number value => return .number value
    | .text value => return .text value
    | .regex regex => return .ofBool (regex.isFound {} (← get).record)
    | .place place => (← spotOf job fuel place).value job
    | .set place operation value =>
      let spot ← spotOf job fuel place
      match operation with
      | none =>
        let value ← evaluate job fuel value
        spot.set job value
        return value
      | some operation =>
        let second := (← evaluate job fuel value).toNumber
        let first := (← spot.value job).toNumber
        let result := Value.number (operation.apply first second)
        spot.set job result
        return result
    | .step place up first =>
      let spot ← spotOf job fuel place
      let before := (← spot.value job).toNumber
      let after := if up then before + 1.0 else before - 1.0
      spot.set job (.number after)
      return .number (if first then after else before)
    | .choice condition yes no =>
      evaluate job fuel (if (← evaluate job fuel condition).holds then yes else no)
    | .both first second =>
      if !(← evaluate job fuel first).holds then return .ofBool false
      return .ofBool (← evaluate job fuel second).holds
    | .either first second =>
      if (← evaluate job fuel first).holds then return .ofBool true
      return .ofBool (← evaluate job fuel second).holds
    | .not body => return .ofBool !(← evaluate job fuel body).holds
    | .within keys name =>
      let key ← keyOf (← evaluateAll job fuel keys)
      let number ← tableOf name
      let found ← changeTable number fun table => (table.holds key, table.asked key)
      return .ofBool found
    | .matching negated text pattern =>
      let text ← textOfValue (← evaluate job fuel text)
      let regex ← patternOf job fuel pattern
      return .ofBool (regex.isFound {} text != negated)
    | .compare relation first second =>
      let first ← evaluate job fuel first
      let second ← evaluate job fuel second
      return .ofBool (relation.holds (compareValues (← convertFormat) first second))
    | .joined first second =>
      let first ← textOfValue (← evaluate job fuel first)
      let second ← textOfValue (← evaluate job fuel second)
      return .text (first ++ second)
    | .compute operation first second =>
      let first := (← evaluate job fuel first).toNumber
      let second := (← evaluate job fuel second).toNumber
      return .number (operation.apply first second)
    | .negative body => return .number (-(← evaluate job fuel body).toNumber)
    | .positive body => return .number (← evaluate job fuel body).toNumber
    | .several members =>
      match members with
      | [member] => evaluate job fuel member
      | _ => return .unset
    | .call name arguments => callFunction job fuel name arguments
    | .getline origin source target => readLine job fuel origin source target
    | .known name arguments =>
      match name, arguments with
      | "length", [] => return .ofNat (← get).record.length
      | "length", [.place (.named name)] =>
        match ← cell? name with
        | some (.table number) => return .ofNat (← tableAt number).size
        | some (.unsettled number) => return .ofNat (← tableAt number).size
        | _ => return .ofNat (← textOfValue (← variableValue job name)).length
      | "split", text :: .place (.named name) :: more =>
        let text ← textOfValue (← evaluate job fuel text)
        let separator ←
          match more with
          | .regex regex :: _ => pure (Separator.regex regex)
          | expression :: _ =>
            needed job (Separator.ofText (← textOfValue (← evaluate job fuel expression)))
          | [] => needed job (Separator.ofText (← plainText "FS"))
        let parts := separator.cut text
        setTable (← tableOf name) (Table.ofList (parts.map Value.input))
        return .ofNat parts.length
      | "sub", pattern :: replacement :: more => substitute job fuel false pattern replacement more
      | "gsub", pattern :: replacement :: more => substitute job fuel true pattern replacement more
      | "match", [text, pattern] =>
        let text ← textOfValue (← evaluate job fuel text)
        let regex ← patternOf job fuel pattern
        let (start, length) : Float × Float :=
          match regex.find? {} none text with
          | some found =>
            (Float.ofNat (found.skipped.length + 1), Float.ofNat found.text.length)
          | none => (0.0, -1.0)
        setVariable job "RSTART" (.number start)
        setVariable job "RLENGTH" (.number length)
        return .number start
      | name, arguments => knownValue job name (← evaluateAll job fuel arguments)

/-- Evaluates expressions in order. -/
def evaluateAll (job : Job) : (fuel : Nat) → List Expression → Run (List Value)
  | 0, _ => throwThe Flow .endless
  | _, [] => return []
  | fuel + 1, first :: rest => do
    let value ← evaluate job fuel first
    return value :: (← evaluateAll job fuel rest)

/-- Evaluates the parts of a place. -/
def spotOf (job : Job) : (fuel : Nat) → Place → Run Spot
  | 0, _ => throwThe Flow .endless
  | fuel + 1, place => do
    match place with
    | .named name => return .named name
    | .field index =>
      let number := (← evaluate job fuel index).toNumber
      if truncated number < 0 then
        failAtRecord job ("negative field index $" ++ toString (truncated number))
      return .field (truncated number).toNat
    | .item name keys =>
      let key ← keyOf (← evaluateAll job fuel keys)
      return .item (← tableOf name) key

/-- The regular expression that an expression stands for. -/
def patternOf (job : Job) : (fuel : Nat) → Expression → Run Regex
  | 0, _ => throwThe Flow .endless
  | fuel + 1, expression => do
    match expression with
    | .regex regex => return regex
    | expression =>
      let text ← textOfValue (← evaluate job fuel expression)
      match regexOf text with
      | .ok regex => return regex
      | .error fault => failReading job fault

/-- Replaces matches in a place, or in the record. Gives their number. -/
def substitute (job : Job) : (fuel : Nat) → (all : Bool) → (pattern replacement : Expression) →
    (target : List Expression) → Run Value
  | 0, _, _, _, _ => throwThe Flow .endless
  | fuel + 1, all, pattern, replacement, target => do
    let regex ← patternOf job fuel pattern
    let replacement ← textOfValue (← evaluate job fuel replacement)
    let spot ←
      match target with
      | .place place :: _ => some <$> spotOf job fuel place
      | [] => pure (some (Spot.field 0))
      | _ => pure none
    let before ←
      match spot, target with
      | some spot, _ => spot.value job
      | none, expression :: _ => evaluate job fuel expression
      | none, [] => pure .unset
    let text ← textOfValue before
    let (after, count) := replaced regex replacement all (2 * text.length + 2) none false text
    if count > 0 then
      match spot with
      | some spot => spot.set job (.text after)
      | none => pure ()
    return .ofNat count

/-- Puts the next record of something into a place. Gives one, zero if there is none left, and one
below zero if it cannot be read. -/
def readLine (job : Job) : (fuel : Nat) → Origin → (source : Option Expression) →
    (target : Option Place) → Run Value
  | 0, _, _, _ => throwThe Flow .endless
  | fuel + 1, origin, source, target => do
    let found ←
      match source with
      | none => some <$> nextRecord job mostSteps
      | some source =>
        let name ← textOfValue (← evaluate job fuel source)
        recordFrom job origin (String.ofList name)
    match found with
    | none => return .number (-1.0)
    | some none => return .number 0.0
    | some (some record) =>
      match target with
      | none => setRecord record
      | some place => (← spotOf job fuel place).set job (.input record)
      return .number 1.0

/-- Calls a function of the program. A name that was never used may become a table in it. -/
def callFunction (job : Job) : (fuel : Nat) → (name : String) → (arguments : List Expression) →
    Run Value
  | 0, _, _ => throwThe Flow .endless
  | fuel + 1, name, arguments => do
    match job.program.functions.find? (·.name == name) with
    | none => return .unset
    | some function =>
      let cells ← argumentCells job fuel arguments
      let before := (← get).ownNames
      let names := function.parameters.zipIdx.map fun (parameter, index) =>
        (parameter, (cells[index]?).getD (.value .unset))
      modify fun machine => { machine with ownNames := names }
      let run : Run Value := do
        try
          execute job fuel function.body
          return .unset
        catch
          | .answer value => return value
          | leave => throw leave
      let result ← run
      modify fun machine => { machine with ownNames := before }
      return result

/-- What the arguments of a call stand for. -/
def argumentCells (job : Job) : (fuel : Nat) → List Expression → Run (List Cell)
  | 0, _ => throwThe Flow .endless
  | _, [] => return []
  | fuel + 1, first :: rest => do
    let cell ←
      match first with
      | .place (.named name) =>
        let cell ← cell? name
        let isNew : Bool := match cell with
          | none => name ≠ "NF"
          | some (.value .unset) => true
          | _ => false
        if isNew then
          let number := (← get).tables.size
          modify fun machine => { machine with tables := machine.tables.push {} }
          setCell name (.unsettled number)
          pure (Cell.unsettled number)
        else
          match cell with
          | some (.table number) => pure (.table number)
          | some (.unsettled number) => pure (.unsettled number)
          | _ => pure (.value (← variableValue job name))
      | expression => pure (.value (← evaluate job fuel expression))
    return cell :: (← argumentCells job fuel rest)

/-- Does a statement. -/
def execute (job : Job) : (fuel : Nat) → Statement → Run Unit
  | 0, _ => throwThe Flow .endless
  | fuel + 1, statement => do
    match statement with
    | .expression expression =>
      let _ ← evaluate job fuel expression
    | .print values target =>
      let texts ← (← evaluateAll job fuel values).mapM outputText
      let record := (← get).record
      let texts := if values.isEmpty then [record] else texts
      let line := (← plainText "OFS").intercalate texts ++ (← plainText "ORS")
      emit job (← targetOf job fuel target) line
    | .format values target =>
      let values ← evaluateAll job fuel values
      let target ← targetOf job fuel target
      emit job target (← formatValues job "printf" values)
    | .block body => executeAll job fuel body
    | .branch condition yes no =>
      execute job fuel (if (← evaluate job fuel condition).holds then yes else no)
    | .loop condition body => executeLoop job fuel (some condition) (.block []) body
    | .loopAfter body condition =>
      if ← executeRound job fuel body then
        executeLoop job fuel (some condition) (.block []) body
    | .count start condition step body =>
      execute job fuel start
      executeLoop job fuel condition step body
    | .each name table body =>
      let number ← tableOf table
      let keys ← changeTable number fun table => table.keys
      executeEach job fuel name keys body
    | .leave => throw .loop
    | .goOn => throw .round
    | .next => throw .record
    | .nextFile => throw .file
    | .exit status =>
      match status with
      | some status =>
        let status := ((truncated (← evaluate job fuel status).toNumber) % 256).toNat
        modify fun machine => { machine with status := status }
      | none => pure ()
      throw .stop
    | .answer value =>
      match value with
      | some value => throw (.answer (← evaluate job fuel value))
      | none => throw (.answer .unset)
    | .erase name keys =>
      let number ← tableOf name
      match keys with
      | none => setTable number {}
      | some keys =>
        let key ← keyOf (← evaluateAll job fuel keys)
        changeTable number fun table => ((), table.erase key)

/-- Does statements in order. -/
def executeAll (job : Job) : (fuel : Nat) → List Statement → Run Unit
  | 0, _ => throwThe Flow .endless
  | _, [] => return
  | fuel + 1, first :: rest => do
    execute job fuel first
    executeAll job fuel rest

/-- The name of what an output goes to. -/
def targetOf (job : Job) : (fuel : Nat) → Option (Destination × Expression) →
    Run (Option (Destination × String))
  | 0, _ => throwThe Flow .endless
  | _, none => return none
  | fuel + 1, some (destination, expression) => do
    let name ← textOfValue (← evaluate job fuel expression)
    return some (destination, String.ofList name)

/-- Does the statement of a loop. Says whether the loop goes on. -/
def executeRound (job : Job) : (fuel : Nat) → Statement → Run Bool
  | 0, _ => throwThe Flow .endless
  | fuel + 1, body => do
    try
      execute job fuel body
      return true
    catch
      | .loop => return false
      | .round => return true
      | leave => throw leave

/-- Goes on as long as an expression holds. -/
def executeLoop (job : Job) : (fuel : Nat) → (condition : Option Expression) →
    (step body : Statement) → Run Unit
  | 0, _, _, _ => throwThe Flow .endless
  | fuel + 1, condition, step, body => do
    let holds ←
      match condition with
      | some condition => pure (← evaluate job fuel condition).holds
      | none => pure true
    if holds then
      if ← executeRound job fuel body then
        execute job fuel step
        executeLoop job fuel condition step body

/-- Does a statement for each of some keys. -/
def executeEach (job : Job) : (fuel : Nat) → (name : String) → List String → Statement → Run Unit
  | 0, _, _, _ => throwThe Flow .endless
  | _, _, [], _ => return
  | fuel + 1, name, key :: rest, body => do
    setVariable job name (.text key.toList)
    if ← executeRound job fuel body then executeEach job fuel name rest body

end

/-- The greatest number of steps. -/
def fuel : Nat := 3000000

/-! ## Rules -/

/-- Whether a rule counts for the record. -/
def applies (job : Job) (number : Nat) (pattern : Pattern) : Run Bool := do
  match pattern with
  | .start => return false
  | .stop => return false
  | .always => return true
  | .when condition => return (← evaluate job fuel condition).holds
  | .between first last =>
    let runs := (← get).running.contains number
    if !runs then
      if !(← evaluate job fuel first).holds then return false
    if (← evaluate job fuel last).holds then
      modify fun machine => { machine with running := machine.running.filter (· ≠ number) }
    else if !runs then
      modify fun machine => { machine with running := number :: machine.running }
    return true

/-- Does all rules that count for the record. -/
def applyRules (job : Job) : Run Unit := do
  for (rule, number) in job.program.rules.zipIdx do
    if ← applies job number rule.pattern then execute job fuel rule.action

/-- Does the rules for each record that is left. -/
def applyToAll (job : Job) : (records : Nat) → Run Unit
  | 0 => throwThe Flow .endless
  | records + 1 => do
    match ← nextRecord job mostSteps with
    | none => return
    | some record =>
      setRecord record
      try applyRules job
      catch
        | .record => pure ()
        | .file => modify fun machine => { machine with main := none }
        | leave => throw leave
      applyToAll job records

/-- Does the actions of one kind. -/
def doActions (job : Job) (wanted : Pattern → Bool) : Run Unit := do
  for rule in job.program.rules do
    if wanted rule.pattern then execute job fuel rule.action

/-- Whether actions are done before all records. -/
def Pattern.isStart : Pattern → Bool
  | start => true
  | _ => false

/-- Whether actions are done behind all records. -/
def Pattern.isStop : Pattern → Bool
  | stop => true
  | _ => false

/-- Goes on unless the program ends at once. -/
def unlessAborted (body : Run Unit) : Run Unit := do
  try body
  catch
    | .abort => throw .abort
    | _ => return

/-- Runs a program. -/
def runProgram (job : Job) : Run Unit := do
  let rules := job.program.rules
  unlessAborted do
    doActions job Pattern.isStart
    if rules.any (!·.pattern.isStart) then applyToAll job fuel
  unlessAborted (doActions job Pattern.isStop)

/-- Closes all that is open. -/
def closeAll (job : Job) : Run Unit := do
  for channel in (← get).channels do
    let _ ← closeChannel job channel

end HistoryExpansion.Shell.Awk
