import HistoryExpansion.Shell.Program.Last
import HistoryExpansion.Shell.Program.Search
import HistoryExpansion.Shell.Redirect
import HistoryExpansion.Shell.Signal

/-!
# Starting shells

A shell is a program too: its arguments say what it runs, the text of a command or a script, and
which of its options are set.
-/

namespace HistoryExpansion.Shell

/-- What the arguments of a shell ask for. -/
structure Invocation where
  /-- Whether the first operand is the text of a command. -/
  takesText : Bool := false
  /-- Whether commands are read from the input. -/
  readsInput : Bool := false
  /-- The options. -/
  options : Options := {}
  /-- The operands. -/
  operands : List String := []

/-- Reads the letters of an argument of a shell. -/
def readShellLetters (dialect : Dialect) (sign : Char) :
    List Char → Invocation → Except String Invocation
  | [], invocation => .ok invocation
  | c :: rest, invocation =>
    if c = 'c' then readShellLetters dialect sign rest { invocation with takesText := true }
    else if c = 's' then readShellLetters dialect sign rest { invocation with readsInput := true }
    else
      let known :=
        if dialect.isExtended ∧ "irlDkptBEHPTr".toList.contains c then some invocation.options
        else Builtin.setOption? c (sign == '-') invocation.options
      match known, dialect with
      | some options, _ =>
        readShellLetters dialect sign rest { invocation with options := options }
      | none, .plain => .error ("0: Illegal option " ++ String.ofList [sign, c])
      | none, .extended => .error (String.ofList [sign, c] ++ ": invalid option")

/-- Reads the arguments of a shell. -/
def readShellArguments (dialect : Dialect) : (fuel : Nat) → List String → Invocation →
    Except String Invocation
  | 0, words, invocation => .ok { invocation with operands := words }
  | _, [], invocation => .ok invocation
  | fuel + 1, word :: rest, invocation =>
    let named (on : Bool) : Except String Invocation :=
      match rest with
      | [] => .ok invocation
      | name :: rest =>
        match Builtin.setNamed? dialect name on invocation.options, dialect with
        | some options, _ =>
          readShellArguments dialect fuel rest { invocation with options := options }
        | none, .plain => .error ("0: Illegal option -o " ++ name)
        | none, .extended => .error ("bash: " ++ name ++ ": invalid option name")
    match word.toList with
    | ['-'] => .ok { invocation with operands := rest }
    | ['-', '-'] => .ok { invocation with operands := rest }
    | ['-', 'o'] => named true
    | ['+', 'o'] => named false
    | ['-', 'O'] =>
      match dialect, rest with
      | .extended, name :: rest =>
        let options := invocation.options
        readShellArguments dialect fuel rest
          { invocation with options := { options with further := name :: options.further } }
      | _, _ => .error "0: Illegal option -O"
    | '-' :: '-' :: name =>
      if dialect.isExtended ∧
          ["norc", "noprofile", "posix", "login", "noediting", "restricted", "verbose"].contains
            (String.ofList name) then
        readShellArguments dialect fuel rest invocation
      else if dialect.isExtended then .error (word ++ ": invalid option")
      else .error "0: Illegal option --"
    | sign :: c :: letters =>
      if sign = '-' ∨ sign = '+' then do
        readShellArguments dialect fuel rest
          (← readShellLetters dialect sign (c :: letters) invocation)
      else .ok { invocation with operands := word :: rest }
    | _ => .ok { invocation with operands := word :: rest }

/-- How a shell of the extended dialect is called. -/
def shellUsage : String :=
  "Usage:\tbash [GNU long option] [option] ...\n" ++
  "\tbash [GNU long option] [option] script-file ...\n" ++
  "GNU long options:\n" ++
  String.join (["debug", "debugger", "dump-po-strings", "dump-strings", "help", "init-file",
    "login",
    "noediting", "noprofile", "norc", "posix", "pretty-print", "rcfile", "restricted", "verbose",
    "version"].map fun name => "\t--" ++ name ++ "\n") ++
  "Shell options:\n" ++
  "\t-ilrsD or -c command or -O shopt_option\t\t(invocation only)\n" ++
  "\t-abefhkmnptuvxBCEHPT or -o option\n"

/-- The variables that a new shell sets by itself. -/
def startingBindings (dialect : Dialect) : List (String × Binding) :=
  let pairs :=
    match dialect with
    | .plain =>
      [("IFS", usualSeparators), ("OPTIND", "1"), ("PPID", "1"), ("PS1", "# "), ("PS2", "> "),
        ("PS4", "+ ")]
    | .extended =>
      [("BASH", "/usr/bin/bash"), ("BASH_VERSION", "5.2.15(1)-release"), ("HOSTNAME", "localhost"),
        ("HOSTTYPE", "x86_64"), ("IFS", usualSeparators), ("MACHTYPE", "x86_64-pc-linux-gnu"),
        ("OPTERR", "1"), ("OPTIND", "1"), ("OSTYPE", "linux-gnu"), ("PPID", "1"), ("PS4", "+ "),
        ("SHELL", "/bin/bash"), ("TERM", "dumb")]
  pairs.map fun (name, value) => (name, { value := some value })

/-- What a new shell has of its own. -/
def freshOwn (dialect : Dialect) (name : String) (process : Nat) (here : Location)
    (environment : List (String × String)) (descriptors : List (Nat × Nat)) : Own where
  name := name
  process := process
  here := here
  dialect := dialect
  descriptors := descriptors
  bindings :=
    let given := environment.map fun (name, value) =>
      (name, { value := some value, exported := true : Binding })
    let level := (((environment.lookup "SHLVL").map fun text => decimal text.toList).getD 0) + 1
    let levels : List (String × Binding) :=
      if dialect.isExtended then [("SHLVL", { value := some (toString level), exported := true })]
      else []
    rebind "PWD" { value := some (Path.ofParts true here), exported := true }
      (levels ++ given.filter (fun (name, _) => (levels.lookup name).isNone) ++
        (startingBindings dialect).filter fun (name, _) => (given.lookup name).isNone)

/-- Runs the text of a shell's command to the end. -/
def runShellText (below : Interpreter) (name text : String) (arguments : List String)
    (origin : Option String) : Effect Nat := do
  changeOwn fun own =>
    { own with name := name, arguments := arguments, line := 1, origin := origin }
  toEnd below (runOwnText below text)

/-- Takes all that is left of the input. -/
def takeInput : Effect Octets := do
  let octets ← remaining 0
  keepUnread 0 []
  return octets

/-- Runs a shell. -/
def runShell (below : Interpreter) (name : String) (arguments : List String) : Effect Nat := do
  let dialect := (← own).dialect
  let refuse (message : String) : Effect Nat := do
    writeText 2 (name ++ ": " ++ message ++ "\n")
    if message.endsWith ": invalid option" then writeText 2 shellUsage
    return 2
  if dialect.isExtended ∧ arguments.head? = some "--version" then
    writeText 1 ("GNU bash, version 5.2.15(1)-release (x86_64-pc-linux-gnu)\n")
    return 0
  match readShellArguments dialect (arguments.length + 1) arguments {} with
  | .error message => refuse message
  | .ok invocation =>
    changeOwn fun own => { own with options := invocation.options }
    match invocation.operands with
    | [] =>
      if invocation.takesText then
        refuse (if dialect.isExtended then "-c: option requires an argument"
          else "0: -c requires an argument")
      else runShellText below name (String.ofList (Utf8.decodeLossy (← takeInput))) [] none
    | first :: rest =>
      if invocation.takesText then
        runShellText below (rest.headD name) first (rest.drop 1) (some "-c")
      else if invocation.readsInput then
        runShellText below name (String.ofList (Utf8.decodeLossy (← takeInput))) (first :: rest)
          none
      else
        let disk ← diskHere
        match disk.read first, dialect with
        | .ok octets, _ =>
          runShellText below first (String.ofList (Utf8.decodeLossy octets)) rest none
        | .error .isDirectory, .plain => return 0
        | .error .isDirectory, .extended =>
          writeText 2 (first ++ ": " ++ first ++ ": " ++ DiskError.isDirectory.reason ++ "\n")
          return 126
        | .error error, .plain => refuse ("0: cannot open " ++ first ++ ": " ++ openingReason error)
        | .error error, .extended =>
          writeText 2 (name ++ ": " ++ first ++ ": " ++ error.reason ++ "\n")
          return if error = .notFound then 127 else 126

/-- Runs something as a process of its own that gets some variables. A signal that ends the process
reaches whoever started it. -/
def asProcess (name : String) (dialect : Dialect) (environment : List (String × String))
    (body : Effect Nat) : Effect Nat := do
  let before ← own
  let process := (← get).processes + 1
  modify fun state => { state with processes := process }
  changeOwn fun own =>
    { freshOwn dialect name process own.here environment own.descriptors with mask := own.mask }
  let status ←
    try body
    catch flow =>
      changeOwn fun _ => before
      match flow with
      | .killed other signal => throw (if other = process then .crashed signal else flow)
      | flow => throw flow
  changeOwn fun _ => before
  return status

end HistoryExpansion.Shell
