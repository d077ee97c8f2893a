import HistoryExpansion.Disk.Change
import HistoryExpansion.Shell.Items
import HistoryExpansion.Shell.Script

/-!
# The state of a shell

What a shell shares with the commands that it starts: the disk, the streams that are open and the
list of processes. What is its own: variables, functions, arguments, options, descriptors and its
directory. A subshell starts with what is its parent's own and leaves it as it was.
-/

namespace HistoryExpansion.Shell

/-- Something that a descriptor can stand for. -/
inductive Stream where
  /-- A place that keeps what is written, in parts, newest first. -/
  | sink (parts : List Octets)
  /-- Octets that are still to be read. With the flag they are the start of what goes on without an
  end. -/
  | source (rest : Octets) (endless : Bool)
  /-- A file, with the place of the next octet; with the flag writing goes to its end. -/
  | file (place : Location) (offset : Nat) (atEnd readable writable : Bool)
  /-- What is always empty and takes everything. -/
  | void
  /-- What takes nothing. -/
  | full

/-- A variable. -/
structure Binding where
  /-- Its value, if it is set; for a list the item that stands for it alone. -/
  value : Option String := none
  /-- Whether commands get it. -/
  exported : Bool := false
  /-- Whether it keeps its value. -/
  constant : Bool := false
  /-- Whether its values are arithmetic expressions. -/
  whole : Bool := false
  /-- Whether its values are put into capital letters, or into small ones. -/
  capital : Option Bool := none
  /-- Whether its value is the name of the variable that is meant. -/
  refers : Bool := false
  /-- Its items, if it is a list. -/
  items : Option Items := none
  deriving DecidableEq, Repr

/-- A variable with other items. -/
def Binding.withItems (binding : Binding) (items : Items) : Binding :=
  { binding with items := some items, value := items.get? "0" }

/-- A variable with another value. -/
def Binding.withValue (binding : Binding) (value : String) : Binding :=
  match binding.items with
  | some items => binding.withItems (items.set "0" value)
  | none => { binding with value := some value }

/-- The options of a shell. -/
structure Options where
  /-- Whether it ends when a command fails. -/
  endsOnFailure : Bool := false
  /-- Whether an unset variable is an error. -/
  needsValues : Bool := false
  /-- Whether commands are shown before they are run. -/
  traces : Bool := false
  /-- Whether patterns are not matched against paths. -/
  keepsPatterns : Bool := false
  /-- Whether commands are read and not run. -/
  onlyReads : Bool := false
  /-- Whether every assignment is for commands too. -/
  exportsAll : Bool := false
  /-- Whether files are not overwritten by redirections. -/
  keepsFiles : Bool := false
  /-- Whether a pipeline fails when any of its commands does. -/
  pipesFail : Bool := false
  /-- The further options that are set, by their names. -/
  further : List String := []
  deriving DecidableEq, Repr

/-- A command that a shell does not wait for, as the shell lists it. -/
structure Child where
  /-- Its number in the list. -/
  number : Nat
  /-- Its process. -/
  process : Nat
  /-- The command, as it is shown. -/
  title : String
  /-- Whether it was waited for in the end. -/
  waited : Bool := false
  deriving DecidableEq, Repr

/-- A program that a shell remembers the place of. -/
structure Remembered where
  /-- The name it is called by. -/
  name : String
  /-- Its path. -/
  path : String
  /-- How often it was called. -/
  calls : Nat
  deriving DecidableEq, Repr

/-- What a shell does not share. -/
structure Own where
  /-- The name it was started by. -/
  name : String
  /-- Its number. -/
  process : Nat
  /-- Its arguments. -/
  arguments : List String := []
  /-- Its variables. -/
  bindings : List (String × Binding) := []
  /-- Its functions. -/
  functions : List (String × Command) := []
  /-- Its options. -/
  options : Options := {}
  /-- The streams of its descriptors, by their numbers. -/
  descriptors : List (Nat × Nat) := []
  /-- Its directory. -/
  here : Location
  /-- The way to its directory that it was told, along links. -/
  shownHere : Location := here
  /-- The status of its last command. -/
  status : Nat := 0
  /-- The command of its own that it runs, which its messages name. -/
  caller : Option String := none
  /-- The line of the command that it runs. -/
  line : Nat := 1
  /-- The commands that it runs on signals and at its end. -/
  traps : List (String × String) := []
  /-- The commands that it does not wait for, latest first. -/
  children : List Child := []
  /-- The process of the last command that it did not wait for. -/
  lastChild : Option Nat := none
  /-- The status of the last command whose output became part of a word. -/
  substituted : Nat := 0
  /-- The number of files whose commands it runs in itself. -/
  sources : Nat := 0
  /-- Whether it is in a function. -/
  inFunction : Bool := false
  /-- The bindings that variables of the function it is in had before, newest first. -/
  saved : List (String × Option Binding) := []
  /-- The number of loops that it is in. -/
  loops : Nat := 0
  /-- The variables that are set for one command only, latest first. -/
  temporary : List String := []
  /-- The programs that it remembers, latest first. -/
  remembered : List Remembered := []
  /-- The number of shells of the same process that it is in. -/
  level : Nat := 0
  /-- Whether the program that it calls takes its place. -/
  isLast : Bool := false
  /-- Whether it says nothing of programs that signals end. -/
  isQuiet : Bool := false
  /-- Its dialect. -/
  dialect : Dialect := .plain
  /-- The names that stand for other texts at the start of commands, newest first. -/
  aliases : List (String × String) := []
  /-- The statuses of the commands of the last pipeline. -/
  statuses : List Nat := [0]
  /-- The functions that it is in, innermost first. -/
  callers : List String := []
  /-- The directories that it can go back to, latest first. -/
  directories : List Location := []
  /-- The letters that the words of an argument were read to, by the number of the argument. -/
  lettersRead : Nat := 0
  /-- The number of that argument. -/
  letterIndex : Nat := 1
  /-- The number of files that hold the outputs of commands. -/
  channels : Nat := 0
  /-- The commands that are given the contents of files, by the numbers of these. -/
  receivers : List (Nat × String) := []
  /-- Where the text that it runs comes from, if that is no file. -/
  origin : Option String := none
  /-- What its messages start with, if not its name. -/
  voice : Option String := none
  /-- What the messages of its functions start with. -/
  voices : List (String × String) := []
  /-- The number of texts of commands that the one it runs stands in. -/
  depth : Nat := 0
  /-- The last word of the last call. -/
  lastWord : String := name
  /-- The permissions that new files are denied. -/
  mask : Nat := usualMask

/-- A command that nobody has to wait for, as a process of its own. -/
structure Job where
  /-- The process. -/
  process : Nat
  /-- The streams that it keeps open, by their numbers. -/
  streams : List Nat
  /-- Whether it is a call of a program, with no other process that waits for that. -/
  isCall : Bool
  /-- The time at which it ended and its status, if it has ended. -/
  ended : Option (Nat × Nat) := none
  /-- The signal that ended it, if one did. -/
  signal : Option Nat := none
  /-- The time until which its streams are kept open even so. -/
  heldUntil : Nat := 0
  deriving DecidableEq, Repr

/-- The process that everything starts with. -/
def firstProcess : Nat := 2

/-- What processes share. -/
structure Shared where
  /-- The disk. -/
  disk : Disk
  /-- The streams that were ever opened. -/
  streams : Array Stream
  /-- The number of processes so far. -/
  processes : Nat := firstProcess
  /-- The commands that nobody has to wait for, latest first. -/
  jobs : List Job := []

/-- The state of a shell. -/
structure State extends Shared where
  /-- The time in thousandths of a second. -/
  clock : Nat := 0
  /-- The time at which everything is stopped. -/
  deadline : Option Nat := none
  /-- The process that takes its turn. -/
  process : Nat := firstProcess
  /-- The signals that have come in and are still to be answered. -/
  received : List Nat := []
  /-- The signal that ends the first process, if one has come in. -/
  ending : Option Nat := none
  /-- The signals that a shell within the shell has sent to it. -/
  fromWithin : List Nat := []
  /-- What is not shared. -/
  own : Own

end HistoryExpansion.Shell
