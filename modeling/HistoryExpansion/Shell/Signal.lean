import HistoryExpansion.Shell.Word

/-!
# Signals

The signals that a process can be sent, by name and by number.
-/

namespace HistoryExpansion.Shell

/-- The names of the signals that have no meaning of their own, each with its number. -/
def furtherSignals : List (String × Nat) :=
  ("RTMIN", 34) ::
    ((List.range' 1 15).map fun n => ("RTMIN+" ++ toString n, 34 + n)) ++
    ((List.range' 1 14).reverse.map fun n => ("RTMAX-" ++ toString n, 64 - n)) ++
    [("RTMAX", 64)]

/-- The names of the signals, each with its number. -/
def signals : List (String × Nat) :=
  [("HUP", 1), ("INT", 2), ("QUIT", 3), ("ILL", 4), ("TRAP", 5), ("ABRT", 6), ("BUS", 7),
    ("FPE", 8), ("KILL", 9), ("USR1", 10), ("SEGV", 11), ("USR2", 12), ("PIPE", 13), ("ALRM", 14),
    ("TERM", 15), ("STKFLT", 16), ("CHLD", 17), ("CONT", 18), ("STOP", 19), ("TSTP", 20),
    ("TTIN", 21), ("TTOU", 22), ("URG", 23), ("XCPU", 24), ("XFSZ", 25), ("VTALRM", 26),
    ("PROF", 27), ("WINCH", 28), ("IO", 29), ("PWR", 30), ("SYS", 31),
    ("POLL", 29)] ++ furtherSignals

/-- What a signal does to a process that does nothing about it. -/
inductive Reaction where
  /-- It ends the process. -/
  | ends
  /-- It is not noticed. -/
  | ignored
  /-- It stops the process until another one comes. -/
  | stops
  deriving DecidableEq, Repr

/-- What a signal does. -/
def reactionTo (signal : Nat) : Reaction :=
  if signal = 0 ∨ signal = 17 ∨ signal = 18 ∨ signal = 23 ∨ signal = 28 then .ignored
  else if 19 ≤ signal ∧ signal ≤ 22 then .stops
  else .ends

/-- What a signal does to a shell that does nothing about it; one of the extended dialect is deaf to
the request to quit. -/
def reactionOf (isExtended : Bool) (signal : Nat) : Reaction :=
  if isExtended ∧ signal = 3 then .ignored else reactionTo signal

/-- The number of a signal that is given by its name or its number. -/
def signalNumber? (word : String) : Option Nat :=
  if word = "" then none
  else if word.toList.all isDigit then
    let number := decimal word.toList
    if number ≤ 64 then some number else none
  else if word.toUpper = "EXIT" then some 0
  else signals.lookup word.toUpper

/-- The name of a signal, or its number if it has none. -/
def signalName (number : Nat) : String :=
  if number = 0 then "EXIT"
  else ((signals.find? (·.2 == number)).map Prod.fst).getD (toString number)

/-- The number of a signal that is given by its name with three letters before it, or without. -/
def fullSignalNumber? (word : String) : Option Nat :=
  match word.toUpper.toList with
  | 'S' :: 'I' :: 'G' :: name => (signals.lookup (String.ofList name)).or (signalNumber? word)
  | _ => signalNumber? word

/-- The signals in rows of five, each with its number. -/
def signalTable : String :=
  let numbers := (List.range' 1 31) ++ (List.range' 34 31)
  let cells := numbers.map fun n =>
    (if n < 10 then " " else "") ++ toString n ++ ") SIG" ++ signalName n
  String.join (cells.zipIdx.map fun (cell, i) =>
    cell ++ (if i % 5 = 4 then "\n" else "\t") ++
      (if i + 1 = cells.length ∧ i % 5 ≠ 4 then "\n" else ""))

/-- The names of the signals, each on its line; one that has no name is shown by its number. -/
def signalNames : String :=
  String.join ((List.range 65).map fun n =>
    (if n = 0 ∨ n = 16 then toString n else signalName n) ++ "\n")

/-- What is said of a process that a signal has ended. -/
def signalText : Nat → String
  | 1 => "Hangup"
  | 3 => "Quit"
  | 4 => "Illegal instruction"
  | 5 => "Trace/breakpoint trap"
  | 6 => "Aborted"
  | 7 => "Bus error"
  | 8 => "Floating point exception"
  | 9 => "Killed"
  | 10 => "User defined signal 1"
  | 11 => "Segmentation fault"
  | 12 => "User defined signal 2"
  | 14 => "Alarm clock"
  | 15 => "Terminated"
  | 31 => "Bad system call"
  | _ => ""

end HistoryExpansion.Shell
