import HistoryExpansion.Shell.Program
import HistoryExpansion.Shell.Program.Remembered
import HistoryExpansion.Shell.Trace
import HistoryExpansion.Shell.Trap

/-!
# Calls

A call names a function, a command of the shell itself or a program. Its words are replaced first,
then its redirections are done, then its assignments, which last as long as the call unless there is
nothing else in it.
-/

namespace HistoryExpansion.Shell

/-! ## Status -/

/-- Notes the status of a command, runs what is kept for failures, and ends the shell if it is asked
to end when a command fails. -/
def conclude (below : Interpreter) (guarded : Bool) (status : Nat) : Effect Nat := do
  changeOwn fun own => { own with status := status }
  answerSignals below
  if status ≠ 0 ∧ !guarded then
    atFailure below status
    if (← own).options.endsOnFailure then throw (.exit status)
  return status

/-- Notes the status of a command that is a pipeline of its own. -/
def concludeAlone (below : Interpreter) (guarded : Bool) (status : Nat) : Effect Nat := do
  changeOwn fun own => { own with statuses := [status] }
  conclude below guarded status

/-! ## What names lead to -/

/-- What a name leads to. -/
inductive Meaning where
  /-- A word of the language. -/
  | keyword
  /-- Another text. -/
  | alias (text : String)
  /-- A function. -/
  | function
  /-- A command of the shell itself. -/
  | builtin (special : Bool)
  /-- A program at a path, which may be remembered. -/
  | program (path : String) (remembered : Bool)

/-- The words of the language of the extended dialect that the plain one does not have. -/
def furtherReserved : List String :=
  ["[[", "]]", "function", "select", "time", "coproc"]

/-- What a name leads to. -/
def meaning? (name : String) : Effect (Option Meaning) := do
  let own ← own
  let extended := own.dialect.isExtended
  let aliases ← aliasesHere
  if reserved.contains name ∨ (extended ∧ furtherReserved.contains name) then
    return some .keyword
  else
    match aliases.lookup name with
    | some text => return some (.alias text)
    | none =>
      if (own.functions.lookup name).isSome then return some .function
      else if Builtin.isBuiltin own.dialect name then
        return some (.builtin (!extended && Builtin.isSpecial name))
      else
        match ← lookUp name with
        | .ok (path, _) =>
          return some (.program path (own.remembered.any (·.name == name)))
        | .error _ => return none

/-- What a meaning is called in one word. -/
def Meaning.kind : Meaning → String
  | keyword => "keyword"
  | .alias _ => "alias"
  | function => "function"
  | builtin _ => "builtin"
  | program .. => "file"

/-- A sentence on what a name means. -/
def Meaning.sentence (dialect : Dialect) (name : String) : Meaning → String
  | keyword => name ++ " is a shell keyword"
  | .alias text =>
    match dialect with
    | .plain => name ++ " is an alias for " ++ text
    | .extended => name ++ " is aliased to " ++ betweenMarks text
  | function => name ++ if dialect.isExtended then " is a function" else " is a shell function"
  | builtin special =>
      name ++ if special then " is a special shell builtin" else " is a shell builtin"
  | program path remembered =>
    if !remembered then name ++ " is " ++ path
    else if dialect.isExtended then name ++ " is hashed (" ++ path ++ ")"
    else name ++ " is a tracked alias for " ++ path

/-- What a name could be replaced by in a command. -/
def Meaning.brief (dialect : Dialect) (name : String) : Meaning → String
  | .alias text => "alias " ++ name ++ "=" ++
      (if dialect.isExtended then singleQuoted text else Builtin.inQuotes text)
  | program path _ => path
  | _ => name

/-- Says in a sentence, or briefly, what a name leads to. -/
def describeName (short : Bool) (name : String) : Effect Nat := do
  let dialect := (← own).dialect
  match ← meaning? name with
  | some found =>
    match dialect, found with
    | .plain, .program path _ => remember name path 0
    | _, _ => pure ()
    Builtin.printingText
      ((if short then found.brief dialect name else found.sentence dialect name) ++ "\n")
  | none =>
    if dialect.isExtended then
      if !short then complain (name ++ ": not found")
      return 1
    if !short then writeText 1 (name ++ ": not found\n")
    return 127

/-- Says in sentences what all a name leads to; with the flag only in one word each. -/
def describeAll (briefly : Bool) (name : String) : Effect Nat := do
  let own ← own
  let extended := own.dialect.isExtended
  let keyword := reserved.contains name || (extended && furtherReserved.contains name)
  let disk ← diskHere
  let search := (← value? "PATH").getD ""
  let paths := if name.toList.contains '/' then [name] else searchPaths search name
  let programs :=
    (paths.filter fun path => (programAt disk path).toBool).map (Meaning.program · false)
  let found : List Meaning :=
    ((← aliasesHere).lookup name).toList.map Meaning.alias ++
      (if keyword then [.keyword] else []) ++
      (if (own.functions.lookup name).isSome then [.function] else []) ++
      (if Builtin.isBuiltin own.dialect name then [.builtin false] else []) ++ programs
  if found.isEmpty then
    if !briefly then complain (name ++ ": not found")
    return 1
  let line (meaning : Meaning) : String :=
    (if briefly then meaning.kind else meaning.sentence own.dialect name) ++ "\n"
  Builtin.printingText (String.join (found.map line))

/-- Says what names lead to, by letters that choose how. -/
def describeNames (letters : List Char) (names : List String) : Effect Nat := do
  let mut status := 0
  for name in names do
    let found ←
      match if letters.contains 'a' then some 'a' else letters.getLast? with
      | some 'a' => describeAll (letters.contains 't') name
      | some 't' =>
        match ← meaning? name with
        | some found => Builtin.printingText (found.kind ++ "\n")
        | none => pure 1
      | some 'P' =>
        match ← lookUp name with
        | .ok (path, _) => Builtin.printingText (path ++ "\n")
        | .error _ => pure 1
      | some 'p' =>
        match ← meaning? name with
        | some (.program path _) => Builtin.printingText (path ++ "\n")
        | some _ => pure 0
        | none => pure 1
      | _ => describeName false name
    status := max status found
  return status

/-- Says what names lead to. -/
def describe (arguments : List String) : Effect Nat := do
  if ← isExtended then
    let options := arguments.takeWhile fun word => word.length > 1 ∧ word.startsWith "-"
    let letters := options.flatMap fun word => word.toList.drop 1
    match letters.find? fun c => !"afptP-".toList.contains c with
    | some c => Builtin.misusedOption (String.ofList ['-', c]) "type [-afptP] name [name ...]"
    | none => describeNames (letters.filter (· ≠ '-')) (arguments.drop options.length)
  else describeNames [] arguments

/-! ## Commands that run others -/

/-- The path of a file of commands that a name stands for. -/
def sourcePath? (name : String) : Effect (Option String) := do
  if name.toList.contains '/' then return some name
  let disk ← diskHere
  let isFile (path : String) : Bool := standsAt disk path Entry.isFile
  let paths := (← value? "PATH").getD usualSearch
  match (searchPaths paths name).find? isFile with
  | some path => return some path
  | none => return if ← isExtended then some name else none

/-- Runs the text of a file of commands, whose end does not end the shell. -/
def runSourced (below : Interpreter) (path : String) (octets : Octets) : Effect Nat := do
  let before ← own
  let text := String.ofList (Utf8.decodeLossy octets)
  changeOwn fun own =>
    if own.dialect.isExtended then
      { own with
        sources := own.sources + 1, depth := own.depth + 1, voice := some path, caller := none
        origin := none }
    else { own with caller := some path }
  let restore : Effect Unit :=
    changeOwn fun own =>
      { own with
        sources := before.sources
        depth := before.depth
        voice := before.voice
        caller := before.caller
        origin := before.origin
        line := before.line }
  let status ←
    try runText below false text
    catch
      | .leave status => pure status
      | flow =>
        restore
        throw flow
  restore
  return status

/-- Runs the commands of a file, which can be given arguments of its own. -/
def source (below : Interpreter) (arguments : List String) : Effect Nat := do
  let extended ← isExtended
  match arguments.filter (· ≠ "--") with
  | [] =>
    if !extended then return 0
    complain "filename argument required"
    let caller := (← own).caller.getD "."
    writeText 2 (caller ++ ": usage: " ++ caller ++ " filename [arguments]\n")
    return 2
  | name :: more =>
    let path ←
      match ← sourcePath? name with
      | some path => pure path
      | none => fail (name ++ ": not found")
    match (← diskHere).read path with
    | .ok octets =>
      if extended ∧ !more.isEmpty then
        let before := (← own).arguments
        changeOwn fun own => { own with arguments := more }
        let status ← runSourced below path octets
        changeOwn fun own => { own with arguments := before }
        return status
      runSourced below path octets
    | .error .isDirectory =>
      if !extended then return 0
      complain (path ++ ": is a directory")
      return 1
    | .error error =>
      if extended then
        let caller := (← own).caller
        changeOwn fun own => { own with caller := none }
        complain (path ++ ": " ++ error.reason)
        changeOwn fun own => { own with caller := caller }
        return 1
      fail ("cannot open " ++ path ++ ": " ++ openingReason error)

/-- Runs the text of arguments. -/
def evaluateText (below : Interpreter) (guarded : Bool) (arguments : List String) : Effect Nat := do
  let text := String.intercalate " " (arguments.filter (· ≠ "--"))
  if !(← isExtended) then return ← calledAs "eval" (runText below guarded text)
  let before ← own
  changeOwn fun own => { own with origin := some "eval", depth := own.depth + 1 }
  let restore : Effect Unit :=
    changeOwn fun own => { own with origin := before.origin, depth := before.depth }
  let status ←
    try runText below guarded text
    catch flow =>
      restore
      throw flow
  restore
  return status

/-- Runs a program in the place of the shell. -/
def replaceShell (below : Interpreter) (arguments : List String) : Effect Nat := do
  let extended ← isExtended
  match arguments with
  | [] => return 0
  | "--" :: word :: rest => run word word rest
  | "-a" :: name :: word :: rest => if extended then run word name rest else run "-a" "-a" arguments
  | "-c" :: word :: rest =>
    if extended then
      changeOwn fun own =>
        { own with
          bindings := own.bindings.map fun (name, binding) =>
            (name, { binding with exported := false }) }
      run word word rest
    else run "-c" "-c" arguments
  | word :: rest => run word word rest
where
  /-- Runs the program of a word by a name. -/
  run (word name : String) (rest : List String) : Effect Nat := do
    let dialect := (← own).dialect
    let status ←
      match ← lookUp word with
      | .ok (_, program) =>
        changeOwn fun own => { own with traps := own.traps.filter (·.2 = "") }
        let all ← environment
        let environment := if dialect.isExtended then oneLevelLess all else all
        runProgram below dialect deepest program name rest environment
      | .error reason =>
        if dialect.isExtended ∧ reason = .missing ∧ !word.toList.contains '/' then
          calledAs "exec" (complain (word ++ ": not found"))
          pure 127
        else if dialect.isExtended then refuseStart word reason
        else calledAs "exec" (refuseStart word reason)
    throw (.exit status)

/-! ## Functions -/

/-- Calls a function. -/
def callFunction (below : Interpreter) (name : String) (body : Command) (arguments : List String)
    (guarded : Bool) : Effect Nat := do
  let before ← own
  let voice := if before.dialect.isExtended then before.voices.lookup name else before.voice
  changeOwn fun own =>
    { own with
      arguments := arguments, saved := [], loops := 0, inFunction := true
      callers := name :: own.callers, voice := voice, letterIndex := own.letterIndex }
  let restore : Effect Unit := do
    for (name, binding) in (← own).saved do
      match binding with
      | some binding => setBinding name binding
      | none =>
        changeOwn fun own => { own with bindings := own.bindings.filter (·.1 ≠ name) }
    changeOwn fun own =>
      { own with
        arguments := before.arguments
        saved := before.saved
        loops := before.loops
        inFunction := before.inFunction
        callers := before.callers
        voice := before.voice }
  let status ←
    try below.run guarded body
    catch
      | .leave status => pure status
      | flow =>
        restore
        throw flow
  restore
  return status

/-! ## Assignments in front of calls -/

/-- Runs something with variables set for commands too, and then sets them back. -/
def withVariables (below : Interpreter) (assignments : List (Assignment × String))
    (body : Effect Nat) : Effect Nat := do
  if assignments.isEmpty then body
  else
    let shell ← own
    let before := shell.bindings
    let names := (assignments.map fun (assignment, _) => assignment.name).reverse
    changeOwn fun own =>
      { own with temporary := names ++ own.temporary.filter fun name => !names.contains name }
    for (assignment, text) in assignments do
      let constant := ((← binding? assignment.name).map Binding.constant).getD false
      if constant ∧ (← isExtended) then
        complain (assignment.name ++ ": readonly variable")
      else
        assignAs below assignment text
        setBinding assignment.name
          { ((← binding? assignment.name).getD {}) with exported := true }
    let restore : Effect Unit :=
      changeOwn fun own =>
        { own with
          temporary := shell.temporary
          bindings := assignments.foldl (fun bindings (assignment, _) =>
            match before.lookup assignment.name with
            | some binding => rebind assignment.name binding bindings
            | none => bindings.filter (·.1 ≠ assignment.name)) own.bindings }
    let status ←
      try body
      catch flow =>
        restore
        throw flow
    restore
    return status

/-! ## Arguments that are assignments -/

/-- The name and the value of a word that gives a variable a value, if it is one. -/
def assignmentWord? (word : Word) : Option (String × Word) :=
  match word with
  | .text content false :: rest =>
    let (name, adds, value) := Builtin.splitAssignment content
    let (base, _) := referenceOf name
    match value with
    | some value =>
      if isName base.toList then
        some (name ++ (if adds then "+=" else "="), .text value false :: rest)
      else none
    | none => none
  | _ => none

/-- The texts of arguments that may be assignments, and the lists among them: their names and their
items. -/
def expandArguments (below : Interpreter) (words : List Word) :
    Effect (List String × List (String × Bool × List Word)) := do
  let mut texts := []
  let mut lists := []
  for word in words do
    match word with
    | [.items name adds items] =>
      texts := texts ++ [name]
      lists := lists ++ [(name, adds, items)]
    | word =>
      match assignmentWord? word with
      | some (start, value) =>
        texts := texts ++ [start ++ (← expandText below (← withHomes value))]
      | none => texts := texts ++ (← expandWords below [word])
  return (texts, lists)

/-- Gives variables their lists, be they to be kept or not. -/
def assignLists (below : Interpreter) (lists : List (String × Bool × List Word)) : Effect Unit := do
  for (name, adds, items) in lists do
    let constant := ((← binding? name).map Binding.constant).getD false
    let mark (constant : Bool) : Effect Unit := do
      setBinding name { ((← binding? name).getD {}) with constant := constant }
    mark false
    assignWords below name adds items
    mark constant

/-! ## Calling by name -/

/-- Calls the command of a name: one of the shell itself, or else a program. -/
def callPlain (below : Interpreter) (name : String) (arguments : List String) (guarded : Bool) :
    Effect Nat := do
  let dialect := (← own).dialect
  match name with
  | "eval" => evaluateText below guarded arguments
  | "." => calledAs name (source below arguments)
  | "kill" => calledAs name (kill below arguments)
  | "trap" => calledAs name (trap arguments)
  | "type" => calledAs name (describe arguments)
  | "exec" => replaceShell below arguments
  | "hash" => calledAs name (rememberPrograms arguments)
  | name =>
    if name = "source" ∧ dialect.isExtended then calledAs name (source below arguments)
    else
      match Builtin.find? dialect name with
      | some builtin => calledAs name (builtin arguments)
      | none => start below name arguments (← environment)

/-- Calls the command that is meant by arguments of `command`, or says what it is. -/
def callMeant (below : Interpreter) (guarded : Bool) : (fuel : Nat) → (arguments : List String) →
    Effect Nat
  | 0, _ => return 0
  | fuel + 1, arguments => do
    let extended ← isExtended
    let describing (short : Bool) (names : List String) : Effect Nat := do
      if !extended then
        match names with
        | [] => return 0
        | name :: _ => return ← describeName short name
      let mut status := if names.isEmpty then 0 else 1
      for name in names do
        let found ← calledAs "command" (describeName short name)
        status := min status found
      return status
    match arguments with
    | [] => return 0
    | "-v" :: names => describing true names
    | "-V" :: names => describing false names
    | "-p" :: rest => callMeant below guarded fuel rest
    | "--" :: rest => callMeant below guarded fuel rest
    | "command" :: rest => callMeant below guarded fuel rest
    | word :: rest => callPlain below word rest guarded

/-- Calls a command of the shell itself by its name. -/
def callOwn (below : Interpreter) (arguments : List String) (guarded : Bool) : Effect Nat := do
  match arguments.filter (· ≠ "--") with
  | [] => return 0
  | name :: rest =>
    if Builtin.isBuiltin .extended name then callPlain below name rest guarded
    else
      calledAs "builtin" (complain (name ++ ": not a shell builtin"))
      return 1

/-- Calls the command of a name, which is no function. The name may ask for another command, and
then that one is called or described. -/
def callNamed (below : Interpreter) (name : String) (arguments : List String) (guarded : Bool) :
    Effect Nat := do
  match name with
  | "command" => callMeant below guarded (arguments.length + 1) arguments
  | "builtin" =>
    if ← isExtended then callOwn below arguments guarded
    else callPlain below name arguments guarded
  | name => callPlain below name arguments guarded

/-- Runs an ordinary command, which is in error by itself alone. -/
def unlessFailed (body : Effect Nat) : Effect Nat := do
  try body
  catch
    | .failed status =>
      if (← isExtended) ∧ status = valueNeeded then throw (.failed status)
      return status
    | flow => throw flow

/-- Runs the commands that are given what was written to files, and takes the files away. -/
def finishChannels (below : Interpreter) (before : Nat) : Effect Unit := do
  let own ← own
  if own.channels = before then return
  for (number, text) in own.receivers.reverse do
    let path := "/dev/fd/" ++ toString number
    let content := ((← diskHere).read path).toOption.getD []
    let stream ← openStream (.source content false)
    let _ ← inSubshell below do
      attach 0 stream
      runText below false text
  for i in List.range (own.channels - before) do
    let _ ← changeDisk (Disk.removeFile ("/dev/fd/" ++ toString (63 - before - i)))
  changeOwn fun own => { own with channels := before, receivers := [] }

/-- Runs a call: its words are replaced first, then its redirections are done, and then its
assignments. -/
def runCall (below : Interpreter) (guarded : Bool) (line : Nat) (assignments : List Assignment)
    (words : List Word) (redirects : List Redirect) : Effect Nat := do
  changeOwn fun own => { own with line := line, substituted := 0 }
  let dialect := (← own).dialect
  let channels := (← own).channels
  let takesAssignments :=
    (words.head?.bind bareText?).any fun name => Builtin.takesAssignments dialect name
  let (fields, lists) ←
    if takesAssignments then expandArguments below words
    else do pure (← expandWords below words, [])
  let values : Effect (List (Assignment × String)) :=
    assignments.mapM fun assignment => do return (assignment, ← assignedText below assignment)
  let failing : Nat := if dialect.isExtended then 1 else 2
  let status ←
    match fields with
    | [] =>
      withRedirections below redirects (pure failing) do
        for assignment in assignments do
          let text ← assignedText below assignment
          traceCall below [(assignment, text)] []
          assignAs below assignment text
        return (← own).substituted
    | name :: arguments =>
      changeOwn fun own => { own with lastWord := (name :: arguments).getLast?.getD name }
      let isSpecial := !dialect.isExtended && Builtin.isSpecial name
      let refused : Effect Nat := if isSpecial then throw (.failed 2) else return failing
      if name = "exec" ∧ arguments.isEmpty then
        if ← redirectAll below redirects then pure 0 else refused
      else
        withRedirections below redirects refused do
          let pairs ← values
          traceCall below pairs (name :: arguments)
          match (← own).functions.lookup name with
          | some body =>
            withVariables below pairs (callFunction below name body arguments guarded)
          | none =>
            let status ←
              if isSpecial then do
                for (assignment, text) in pairs do
                  assignAs below assignment text
                callNamed below name arguments guarded
              else withVariables below pairs (unlessFailed (callNamed below name arguments guarded))
            assignLists below lists
            return status
  finishChannels below channels
  concludeAlone below guarded status

end HistoryExpansion.Shell
