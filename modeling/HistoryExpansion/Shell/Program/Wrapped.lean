import HistoryExpansion.Shell.Program.Start
import HistoryExpansion.Shell.Signal

/-!
# Programs that run one other program

Some programs only change what another program is run with: its variables, the time that it has, or
how it is treated.
-/

namespace HistoryExpansion.Shell

/-! ## Variables -/

/-- The assignments that words start with, and the words behind them. -/
def leadingAssignments : List String → List (String × String) × List String
  | [] => ([], [])
  | word :: rest =>
    if word.toList.contains '=' then
      let name := word.toList.takeWhile (· ≠ '=')
      let (pairs, words) := leadingAssignments rest
      ((String.ofList name, String.ofList (word.toList.drop (name.length + 1))) :: pairs, words)
    else ([], word :: rest)

/-- Variables with others set, each in its place if it was there. -/
def withAssignments (environment pairs : List (String × String)) : List (String × String) :=
  pairs.foldl
    (fun environment (name, value) =>
      if (environment.lookup name).isSome then
        environment.map fun pair => if pair.1 = name then (name, value) else pair
      else environment ++ [(name, value)])
    environment

/-- The variables that arguments leave set, and the words of a command behind them: options that
unset one or all of them, and then assignments. -/
def readEnvironment : (fuel : Nat) → (environment : List (String × String)) →
    (arguments : List String) → Except String (List (String × String) × List String)
  | 0, environment, _ => .ok (environment, [])
  | fuel + 1, environment, arguments =>
    let assign (words : List String) : List (String × String) × List String :=
      let (pairs, words) := leadingAssignments words
      (withAssignments environment pairs, words)
    let without (name : String) : List (String × String) :=
      environment.filter fun (other, _) => other ≠ name
    match arguments with
    | "-" :: rest => readEnvironment fuel [] ("--" :: rest)
    | "-i" :: rest => readEnvironment fuel [] rest
    | "--ignore-environment" :: rest => readEnvironment fuel [] rest
    | "-u" :: name :: rest => readEnvironment fuel (without name) rest
    | ["-u"] => .error "option requires an argument -- 'u'"
    | "--" :: rest => .ok (assign rest)
    | word :: rest =>
      match word.toList with
      | '-' :: 'u' :: name => readEnvironment fuel (without (String.ofList name)) rest
      | '-' :: 'i' :: letters =>
        readEnvironment fuel [] (String.ofList ('-' :: letters) :: rest)
      | '-' :: '-' :: name =>
        match Text.after? "unset=".toList name with
        | some name => readEnvironment fuel (without (String.ofList name)) rest
        | none => .error ("unrecognized option " ++ quotedArgument word)
      | '-' :: c :: _ => .error ("invalid option -- " ++ quotedArgument (String.ofList [c]))
      | _ => .ok (assign arguments)
    | [] => .ok (environment, [])

/-- Runs a program with other variables, or shows them. -/
def runWithVariables : Runner := fun launch name arguments environment => do
  match readEnvironment (arguments.length + 1) environment arguments with
  | .error message =>
    complainFor name message
    writeText 2 (adviceFor name)
    return 125
  | .ok (environment, []) => runUtility Utility.printenv name [] environment
  | .ok (environment, command :: arguments) =>
    match ← launch (command :: arguments) environment with
    | .ok status => return status
    | .error error =>
      complainFor name (quotedArgument command ++ ": " ++ error.reason)
      if command.toList.contains ' ' ∧ error = .notFound then
        complainFor name "use -[v]S to pass options in shebang lines"
      return statusOfError error

/-! ## Time -/

/-- Runs something until a time. Gives nothing if it did not end by then. -/
def withDeadline (duration : Nat) (body : Effect Nat) : Effect (Option Nat) := do
  let state ← get
  let before := state.own
  let mine := state.clock + duration
  let limit := (state.deadline.map (min mine)).getD mine
  set { state with deadline := some limit }
  let result ←
    try
      let status ← body
      pure (some status)
    catch flow =>
      let isOver : Bool :=
        match flow with
        | .expired => true
        | .endless => true
        | _ => false
      if isOver ∧ state.deadline ≠ some limit then
        modify fun now => { now with own := before, clock := limit }
        pure none
      else
        modify fun now => { now with deadline := state.deadline }
        throw flow
  modify fun now => { now with deadline := state.deadline }
  return result

/-- What the arguments of a program that limits time ask for. -/
structure TimeLimit where
  /-- The signal that ends the other program. -/
  signal : Nat := 15
  /-- Whether the status of the other program counts even so. -/
  preserves : Bool := false
  /-- The other words. -/
  words : List String := []

/-- Reads the arguments of a program that limits time. -/
def readTimeLimit : List String → TimeLimit → TimeLimit
  | "-s" :: signal :: rest, limit =>
    readTimeLimit rest { limit with signal := (fullSignalNumber? signal).getD 15 }
  | "-k" :: _ :: rest, limit => readTimeLimit rest limit
  | "--preserve-status" :: rest, limit => readTimeLimit rest { limit with preserves := true }
  | "--foreground" :: rest, limit => readTimeLimit rest limit
  | "-p" :: rest, limit => readTimeLimit rest { limit with preserves := true }
  | "-f" :: rest, limit => readTimeLimit rest limit
  | "-v" :: rest, limit => readTimeLimit rest limit
  | "--" :: rest, limit => { limit with words := rest }
  | word :: rest, limit =>
    match word.toList with
    | '-' :: 's' :: signal =>
      readTimeLimit rest
        { limit with signal := (fullSignalNumber? (String.ofList signal)).getD 15 }
    | _ => { limit with words := word :: rest }
  | [], limit => limit

/-- Runs a program that is stopped after some time. -/
def runForTime : Runner := fun launch name arguments environment => do
  let limit := readTimeLimit arguments {}
  match limit.words with
  | word :: command :: rest =>
    match Utility.duration? word with
    | none =>
      complainFor name ("invalid time interval " ++ quotedArgument word)
      writeText 2 (adviceFor name)
      return 125
    | some duration =>
      let body : Effect Nat := do
        match ← launch (command :: rest) environment with
        | .ok status => return status
        | .error error =>
          complainFor name ("failed to run command " ++ quotedArgument command ++ ": " ++
            error.reason)
          return statusOfError error
      if duration = 0 then body
      else
        match ← withDeadline duration body with
        | some status => return status
        | none =>
          if limit.signal = 9 then throw (.crashed 9)
          return if limit.preserves then 128 + limit.signal else 124
  | _ =>
    writeText 2 (adviceFor name)
    return 125

/-! ## Treatment -/

/-- Runs a program as it is. `missing` is the status if there is none, and `options` are letters
that take a value. -/
def runAsIs (options : List Char) : Runner := fun launch name arguments environment => do
  let words := withoutOptions arguments.length arguments
  match words with
  | [] =>
    complainFor name "missing operand"
    writeText 2 (adviceFor name)
    return 125
  | command :: rest =>
    match ← launch (command :: rest) environment with
    | .ok status => return status
    | .error error =>
      let start := if name = "nohup" then "failed to run command " else ""
      complainFor name (start ++ quotedArgument command ++ ": " ++ error.reason)
      return statusOfError error
where
  /-- The words behind the options. -/
  withoutOptions : (fuel : Nat) → List String → List String
    | 0, words => words
    | _, [] => []
    | fuel + 1, word :: rest =>
      match word.toList with
      | ['-', '-'] => rest
      | ['-', c] => if options.contains c then withoutOptions fuel (rest.drop 1)
          else withoutOptions fuel rest
      | '-' :: _ => withoutOptions fuel rest
      | _ => word :: rest

end HistoryExpansion.Shell
