import HistoryExpansion.Disk.Change
import HistoryExpansion.Disk.Text
import HistoryExpansion.Shell.Utility.Quoted

/-!
# Utilities

A utility is a program that reads its arguments, its input and the disk, and gives back what it
wrote, the status that it ends with and the disk as it left it.
-/

namespace HistoryExpansion.Shell

/-- What a utility is given. -/
structure Task where
  /-- The name it was called by. -/
  name : String
  /-- Its arguments. -/
  arguments : List String
  /-- Its input. -/
  input : Octets
  /-- The disk. -/
  disk : Disk
  /-- The variables it gets. -/
  environment : List (String × String)
  /-- Whether what was read of the input can be given back. -/
  rewinds : Bool := false

/-- What a utility leaves. -/
structure Report where
  /-- What it wrote, newest first: each time a descriptor and the octets. -/
  writes : List (Nat × Octets) := []
  /-- Its status. -/
  status : Nat := 0
  /-- The disk. -/
  disk : Disk
  /-- What it did not read of its input. -/
  unread : Octets := []
  /-- The time it took, in thousandths of a second. -/
  duration : Nat := 0
  /-- Whether it goes on writing until it is stopped. -/
  endless : Bool := false

/-- A program that only reads and writes. -/
abbrev Utility := Task → Report

namespace Report

/-- What a report says was written to a descriptor. -/
def writtenTo (report : Report) (descriptor : Nat) : Octets :=
  (report.writes.reverse.filter (·.1 == descriptor)).flatMap Prod.snd

/-- The output. -/
def output (report : Report) : Octets :=
  report.writtenTo 1

/-- The report with more output behind it. -/
def adds (report : Report) (output : Octets) : Report :=
  { report with writes := (1, output) :: report.writes }

/-- The report with more text behind it. -/
def prints (report : Report) (text : String) : Report :=
  report.adds (Utf8.ofString text)

/-- The report with another output. -/
def withOutput (report : Report) (output : Octets) : Report :=
  { report with writes := (1, output) :: report.writes.filter (·.1 ≠ 1) }

/-- The report with a message behind it, which is no failure. -/
def warns (report : Report) (message : String) : Report :=
  { report with writes := (2, Utf8.ofString (message ++ "\n")) :: report.writes }

/-- The report with a message and a status behind it. -/
def complains (report : Report) (message : String) (status : Nat := 1) : Report :=
  { report.warns message with status := status }

/-- Asks a question and reads a line. Says whether that agrees. -/
def asks (report : Report) (question : String) : Bool × Report :=
  let answer := report.unread.takeWhile (· ≠ 0x0A)
  let agrees := answer.head? == some 0x79 || answer.head? == some 0x59
  (agrees,
    { report with
      writes := (2, Utf8.ofString question) :: report.writes
      unread := report.unread.drop (answer.length + 1) })

/-- The report with a change of the disk, or with a message that says what could not be done. -/
def attempts (report : Report) (failing : String) (change : Disk.Change) : Report :=
  match change report.disk with
  | (.ok (), disk) => { report with disk := disk }
  | (.error error, disk) => { report with disk := disk }.complains (failing ++ ": " ++ error.reason)

end Report

namespace Task

/-- What is left of the input when a program that reads it in blocks stops before some rest. -/
def behindBlocks (task : Task) (rest : Octets) (block : Nat) : Octets :=
  let used := task.input.length - rest.length
  task.input.drop ((used + block - 1) / block * block)

/-- What is left of the input when a program that reads it in blocks, and gives back what it did not
need if it can, stops before some rest. -/
def leftOver (task : Task) (rest : Octets) (block : Nat) : Octets :=
  if task.rewinds then rest else task.behindBlocks rest block

/-- A report that nothing was done. -/
def idle (task : Task) : Report :=
  { disk := task.disk, unread := task.input }

/-- A report of some output. -/
def done (task : Task) (output : Octets) : Report :=
  task.idle.adds output

/-- A report of some text. -/
def prints (task : Task) (text : String) : Report :=
  task.done (Utf8.ofString text)

/-- A report of a failure. -/
def fails (task : Task) (message : String) (status : Nat := 1) : Report :=
  task.idle.complains (task.name ++ ": " ++ message) status

/-- The words that say where to learn more of a program. -/
def advice (task : Task) : String :=
  "Try '" ++ task.name ++ " --help' for more information."

/-- A report of a call that cannot be understood. -/
def misused (task : Task) (message : String) (status : Nat := 1) : Report :=
  (task.fails message status).warns task.advice

end Task

/-! ## Options -/

/-- The options and the other words of a command line. -/
structure CommandLine where
  /-- The letters that were set, in order. -/
  letters : List Char := []
  /-- The values of letters that take one, latest first. -/
  values : List (Char × String) := []
  /-- The words that are no options. -/
  operands : List String := []

/-- Whether a letter was set. -/
def CommandLine.has (line : CommandLine) (letter : Char) : Bool :=
  line.letters.contains letter

/-- Whether one of some letters was set. -/
def CommandLine.hasAny (line : CommandLine) (letters : String) : Bool :=
  letters.toList.any line.has

/-- The last value of a letter. -/
def CommandLine.value? (line : CommandLine) (letter : Char) : Option String :=
  line.values.lookup letter

/-- All values of a letter. -/
def CommandLine.allValues (line : CommandLine) (letter : Char) : List String :=
  (line.values.reverse.filter (·.1 == letter)).map Prod.snd

/-- The last of some letters that was set. -/
def CommandLine.lastOf (line : CommandLine) (letters : String) : Option Char :=
  (line.letters.filter letters.toList.contains).getLast?

/-- The command line with a letter set. -/
def CommandLine.set (line : CommandLine) (letter : Char) : CommandLine :=
  { line with letters := line.letters ++ [letter] }

/-- The command line with a letter set to a value. -/
def CommandLine.setTo (line : CommandLine) (letter : Char) (value : String) : CommandLine :=
  { line.set letter with values := (letter, value) :: line.values }

/-- The options that a program knows. -/
structure OptionRules where
  /-- The letters without values. -/
  flags : String := ""
  /-- The letters with values, which are the rest of the word or the next word. -/
  takers : String := ""
  /-- The letters that may have a value, which is the rest of the word. -/
  optional : String := ""
  /-- The letters that names stand for. -/
  names : List (String × Char) := []
  /-- The letters without values that can only be given by names. -/
  named : String := ""
  /-- The letters with values that can only be given by names. -/
  namedTakers : String := ""
  /-- Whether options may stand behind other words. -/
  mixed : Bool := true

/-- What is wrong with a word that should be an option. -/
inductive OptionFault where
  /-- No option has the letter. -/
  | unknown (letter : Char)
  /-- No option has the name. -/
  | unknownName (word : String)
  /-- Several options have names that start so. -/
  | ambiguous (word : String) (names : List String)
  /-- The letter needs a value. -/
  | noValue (letter : Char)
  /-- The name needs a value. -/
  | noValueOf (name : String)
  /-- The name has no value. -/
  | needlessValue (name : String)
  deriving DecidableEq, Repr

/-- The wording of a fault. -/
def OptionFault.message : OptionFault → String
  | unknown letter => "invalid option -- '" ++ String.ofList [letter] ++ "'"
  | unknownName word => "unrecognized option '" ++ word ++ "'"
  | ambiguous word names =>
    "option '" ++ word ++ "' is ambiguous; possibilities:" ++
      String.join (names.map fun name => " '--" ++ name ++ "'")
  | noValue letter => "option requires an argument -- '" ++ String.ofList [letter] ++ "'"
  | noValueOf name => "option '--" ++ name ++ "' requires an argument"
  | needlessValue name => "option '--" ++ name ++ "' doesn't allow an argument"

namespace OptionRules

/-- Reads the letters of one word. Says whether the next word was taken for a value. -/
def readLetters (rules : OptionRules) (next : Option String) : List Char → CommandLine →
    Except OptionFault (CommandLine × Bool)
  | [], line => .ok (line, false)
  | c :: rest, line =>
    if rules.takers.toList.contains c then
      match rest, next with
      | [], some value => .ok (line.setTo c value, true)
      | [], none => .error (.noValue c)
      | rest, _ => .ok (line.setTo c (String.ofList rest), false)
    else if rules.optional.toList.contains c then
      if rest.isEmpty then .ok (line.set c, false)
      else .ok (line.setTo c (String.ofList rest), false)
    else if rules.flags.toList.contains c then readLetters rules next rest (line.set c)
    else .error (.unknown c)

/-- Reads a word that gives an option by its name, or by a start of it that no other name has. -/
def readName (rules : OptionRules) (word : String) (next : Option String) (line : CommandLine) :
    Except OptionFault (CommandLine × Bool) :=
  let given := (word.toList.drop 2).takeWhile (· ≠ '=')
  let value := (word.toList.drop (given.length + 2)).tail
  let hasValue := word.toList.contains '='
  let fitting := rules.names.filter fun (name, _) => given.isPrefixOf name.toList
  let exact := fitting.filter fun (name, _) => name.toList == given
  match if exact.isEmpty then fitting else exact with
  | [] => .error (.unknownName (String.ofList ('-' :: '-' :: given)))
  | (name, c) :: others =>
    if others.any fun (_, other) => other ≠ c then
      .error (.ambiguous (String.ofList ('-' :: '-' :: given)) (fitting.map Prod.fst))
    else if (rules.flags ++ rules.named).toList.contains c then
      if hasValue then .error (.needlessValue name) else .ok (line.set c, false)
    else if hasValue then .ok (line.setTo c (String.ofList value), false)
    else if rules.optional.toList.contains c then .ok (line.set c, false)
    else
      match next with
      | some value => .ok (line.setTo c value, true)
      | none => .error (.noValueOf name)

/-- Reads the words of a command line. -/
def read (rules : OptionRules) : (fuel : Nat) → List String → CommandLine →
    Except OptionFault CommandLine
  | 0, _, line => .ok line
  | _, [], line => .ok line
  | fuel + 1, word :: rest, line =>
    let goOn (found : Except OptionFault (CommandLine × Bool)) : Except OptionFault CommandLine :=
      match found with
      | .error fault => .error fault
      | .ok (line, tookNext) => read rules fuel (if tookNext then rest.drop 1 else rest) line
    match word.toList with
    | ['-', '-'] => .ok { line with operands := line.operands ++ rest }
    | '-' :: '-' :: _ => goOn (rules.readName word rest.head? line)
    | '-' :: c :: letters => goOn (rules.readLetters rest.head? (c :: letters) line)
    | _ =>
      if rules.mixed then read rules fuel rest { line with operands := line.operands ++ [word] }
      else .ok { line with operands := line.operands ++ word :: rest }

end OptionRules

/-- The command line of a task. -/
def Task.options (task : Task) (rules : OptionRules) : Except OptionFault CommandLine :=
  rules.read (task.arguments.length + 1) task.arguments {}

/-- Runs a utility on its command line unless that cannot be understood. -/
def Task.withRules (task : Task) (rules : OptionRules) (body : CommandLine → Report)
    (status : Nat := 1) : Report :=
  match task.options rules with
  | .error fault => task.misused fault.message status
  | .ok line => body line

/-- Runs a utility that knows some letters on its command line. -/
def Task.withOptions (task : Task) (flags takers : String) (body : CommandLine → Report)
    (status : Nat := 1) : Report :=
  task.withRules { flags := flags, takers := takers } body status

/-! ## Inputs -/

/-- Whether a word names the input. -/
def isInputName (word : String) : Bool :=
  word == "-" || word == "/dev/stdin" || word == "/dev/fd/0"

/-- The octets that a word names: its file, or the input for a single hyphen. -/
def Task.octetsOf (task : Task) (word : String) : Except DiskError Octets :=
  if isInputName word then .ok task.input else task.disk.read word

/-- How a utility words that it cannot read an input. -/
abbrev Wording := (word : String) → DiskError → String

/-- The name of the input and the reason. -/
def plainWording : Wording := fun word error =>
  quoted word ++ ": " ++ error.reason

/-- The complaint of a utility that reads an input only once it is open, as a directory can be. -/
def readingWording (opening : Wording) : Wording := fun word error =>
  if error = .isDirectory then "error reading " ++ quotedAlways word ++ ": " ++ error.reason
  else opening word error

/-- Goes through the named inputs, or the input if none is named. -/
def Task.overInputs (task : Task) (words : List String)
    (body : (word : String) → Octets → Report → Report) (wording : Wording := plainWording) :
    Report :=
  let words := if words.isEmpty then ["-"] else words
  words.foldl
    (fun report word =>
      match task.octetsOf word with
      | .ok octets =>
        let report := body word octets report
        if isInputName word then { report with unread := [] } else report
      | .error error => report.complains (task.name ++ ": " ++ wording word error))
    task.idle

/-- The lines of octets, each without its line break. What follows the last line break counts if it
is not empty. -/
def linesOf (octets : Octets) : List Octets :=
  let (first, others) :=
    octets.foldr
      (fun octet (current, behind) =>
        if octet = 0x0A then ([], current :: behind) else (octet :: current, behind))
      (([], []) : Octets × List Octets)
  match (first :: others).reverse with
  | [] :: earlier => earlier.reverse
  | _ => first :: others

/-- Octets whose lines all have a line break. -/
def ofLines (lines : List Octets) : Octets :=
  lines.flatMap (· ++ [0x0A])

end HistoryExpansion.Shell
