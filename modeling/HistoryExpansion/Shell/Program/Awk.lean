import HistoryExpansion.Shell.Program.Awk.Run

/-!
# Patterns and actions

A program of patterns and actions is taken from the arguments or from files and run on the records
of its input.
-/

namespace HistoryExpansion.Shell

namespace Awk

/-- What a command line asks for. -/
structure Call where
  /-- The files that the program is read from. -/
  files : List String := []
  /-- The variables that are set first. -/
  settings : List (String × Value) := []
  /-- What separates fields. -/
  separator : Option (List Char) := none
  /-- The other arguments. -/
  arguments : List String := []

/-- The characters of an argument, one for each of its octets. -/
def charsOfArgument (text : String) : List Char :=
  charsIn (Utf8.ofString text)

/-- Reads a command line. -/
def readCall : (fuel : Nat) → List String → Call → Except String Call
  | 0, _, call => .ok call
  | _, [], call => .ok call
  | fuel + 1, word :: rest, call =>
    let taking (letter : Char) (value : List Char)
        (body : String → List String → Except String Call) :
        Except String Call :=
      match value, rest with
      | [], [] => .error ("option -" ++ String.ofList [letter] ++ " lacks argument")
      | [], value :: rest => body value rest
      | value, rest => body (String.ofList value) rest
    match word.toList with
    | ['-'] => .ok { call with arguments := word :: rest }
    | ['-', '-'] => .ok { call with arguments := rest }
    | '-' :: 'F' :: value => taking 'F' value fun value rest =>
        let chars := charsOfArgument value
        readCall fuel rest
          { call with separator := some (unescapedText (chars.length + 1) chars) }
    | '-' :: 'f' :: value => taking 'f' value fun value rest =>
        readCall fuel rest { call with files := call.files ++ [value] }
    | '-' :: 'v' :: value => taking 'v' value fun value rest =>
        match settingOf? (charsOfArgument value) with
        | some setting => readCall fuel rest { call with settings := call.settings ++ [setting] }
        | none => .error ("improper assignment: -v " ++ value)
    | '-' :: 'W' :: value => taking 'W' value fun _ rest => readCall fuel rest call
    | '-' :: _ => .error ("not an option: " ++ word)
    | _ => .ok { call with arguments := word :: rest }

/-- How the program is called. -/
def usage : String :=
  "Usage: mawk [Options] [Program] [file ...]\n\nProgram:\n" ++
  "    The -f option value is the name of a file containing program text.\n" ++
  "    If no -f option is given, a \"--\" ends option processing; the following\n" ++
  "    parameters are the program text.\n\nOptions:\n" ++
  "    -f program-file  Program  text is read from file instead of from the\n" ++
  "                     command-line.  Multiple -f options are accepted.\n" ++
  "    -F value         sets the field separator, FS, to value.\n" ++
  "    -v var=value     assigns value to program variable var.\n" ++
  "    --               unambiguous end of options.\n\n" ++
  "    Implementation-specific options are prefixed with \"-W\".  They can be\n" ++
  "    abbreviated:\n\n" ++
  "    -W version       show version information and exit.\n" ++
  "    -W compat        pre-POSIX 2001.\n" ++
  "    -W dump          show assembler-like listing of program and exit.\n" ++
  "    -W help          show this message and exit.\n" ++
  "    -W interactive   set unbuffered output, line-buffered input.\n" ++
  "    -W exec file     use file as program as well as last option.\n" ++
  "    -W posix         stricter POSIX checking.\n" ++
  "    -W random=number set initial random seed.\n" ++
  "    -W sprintf=number adjust size of sprintf buffer.\n" ++
  "    -W usage         show this message and exit.\n"

/-- The content of a file that the program is read from. -/
def programText (path : String) : Effect (Except DiskError (List Char)) := do
  if path = "-" ∨ path = "/dev/stdin" then
    let input ← remaining 0
    keepUnread 0 []
    return .ok (charsIn input)
  return ((← diskHere).read path).map charsIn

/-- The names that are known at the start. -/
def startingNames (name : String) (call : Call) (arguments : List String)
    (environment : List (String × String)) : Machine :=
  let tableOf (pairs : List (String × Value)) : Table :=
    pairs.foldl (fun table (key, value) => table.set (.text (charsOfArgument key)) value) {}
  let listed : Table :=
    ((name :: arguments).zipIdx.foldl
      (fun (table : Table) (word, index) =>
        table.set (.number index) (.input (charsOfArgument word))) {})
  let surroundings : List (String × Value) :=
    environment.map fun (key, value) => (key, Value.input (charsOfArgument value))
  let text (value : String) : Cell := .value (.text value.toList)
  let names : List (String × Cell) :=
    [("FS", text " "), ("OFS", text " "), ("ORS", text "\n"), ("RS", text "\n"),
      ("SUBSEP", text "\x1c"), ("CONVFMT", text "%.6g"), ("OFMT", text "%.6g"),
      ("NR", .value (.ofNat 0)), ("FNR", .value (.ofNat 0)), ("RSTART", .value (.ofNat 0)),
      ("RLENGTH", .value (.number (-1.0))), ("FILENAME", text ""), ("ENVIRON", .table 0),
      ("ARGV", .table 1), ("ARGC", .value (.ofNat (arguments.length + 1)))]
  let settings := call.settings.map fun (name, value) => (name, Cell.value value)
  let separators := call.separator.toList.map fun chars => ("FS", Cell.value (.text chars))
  { names := Std.HashMap.ofList (names ++ settings ++ separators)
    tables := #[tableOf surroundings, listed] }

/-- Runs the program of a text. -/
def runText (job : Job) (label : String) (text : List Char) (machine : Machine) : Effect Nat := do
  match Program.read text with
  | .error faults =>
    for (fault, line) in faults do
      let place :=
        match fault with
        | .unknownCharacter _ => toString line ++ ": "
        | _ => "line " ++ toString line ++ ": "
      complainFor job.name (label ++ place ++ fault.message)
    return 2
  | .ok program =>
    let job := { job with program := program, lines := text.count '\n' + 1 }
    let (_, machine) ← (runProgram job).run.run machine
    let (_, machine) ← (closeAll job).run.run machine
    return machine.status

end Awk

open Awk in
/-- Runs a program of patterns and actions. -/
def runAwk : Runner := fun launch name arguments environment => do
  let job : Awk.Job := { launch, name, environment }
  match readCall (arguments.length + 1) arguments {} with
  | .error message =>
    complainFor name message
    return 2
  | .ok call =>
    match call.files, call.arguments with
    | [], [] =>
      writeText 2 usage
      return 0
    | [], text :: operands =>
      Awk.runText job "" (charsOfArgument text) (startingNames name call operands environment)
    | first :: others, operands =>
      let mut text : List Char := []
      for path in first :: others do
        match ← programText path with
        | .ok content => text := if text.isEmpty then content else text ++ '\n' :: content
        | .error error =>
          complainFor name ("cannot open \"" ++ path ++ "\" (" ++ error.reason ++ ")")
          return 2
      Awk.runText job (first ++ ": ") text (startingNames name call operands environment)

end HistoryExpansion.Shell
