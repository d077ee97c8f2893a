import HistoryExpansion.Engine
import HistoryExpansion.Text.Utf8

/-!
# Reading commands line by line

The loop takes its input line by line. A blank line asks for nothing; `exit` and `quit` end the
loop, and so does a line that is not UTF-8; every other line is handled by the engine and gives one
reply. A failure to handle a line is its reply and ends nothing.
-/

namespace HistoryExpansion.Repl

variable {World : Type}

/-! ## Lines -/

/-- The code of the line feed, which ends a line. -/
def lineFeed : UInt8 := 0x0A

/-- The lines of the input, each with its line feed; the last one may lack it. -/
def lines : Octets → List Octets
  | [] => []
  | octet :: rest =>
    if octet = lineFeed then [octet] :: lines rest
    else
      match lines rest with
      | [] => [[octet]]
      | line :: more => (octet :: line) :: more

/-- What a line asks of the loop. -/
inductive Request where
  /-- Nothing at all. -/
  | nothing
  /-- To handle a text. -/
  | handle (text : String)
  /-- To end. -/
  | leave
  /-- The line cannot be read. -/
  | unreadable (failure : Failure)
  deriving DecidableEq, Repr

/-- The words that end the loop. -/
def leaveWords : List String := ["exit", "quit"]

/-- What a text asks for once the blanks around it are gone. -/
def Request.ofText (text : String) : Request :=
  let entry := Text.trim text
  if entry = "" then nothing
  else if leaveWords.contains entry then leave
  else handle entry

/-- The code of the carriage return, which may stand before the line feed. -/
def carriageReturn : UInt8 := 0x0D

/-- A line without the line feed that ends it, and without the carriage return before that. -/
def withoutEnd (line : Octets) : Octets :=
  match line.reverse with
  | last :: second :: rest =>
    if last = lineFeed then
      if second = carriageReturn then rest.reverse else (second :: rest).reverse
    else line
  | [last] => if last = lineFeed then [] else line
  | [] => []

/-- What a line asks for. What ends the line is gone before the line is decoded, so a character
that the end of the line cuts short is incomplete. -/
def Request.ofLine (line : Octets) : Request :=
  match Utf8.decode (withoutEnd line) with
  | .error fault => unreadable (.io fault.message)
  | .ok text => ofText (String.ofList text)

/-! ## Replies -/

/-- The text shown for a command's output: all that it printed, and its exit code on a line of its
own if it ended badly. -/
def shown (output : Output) : String :=
  let text := output.stdout ++ output.stderr
  if output.success then text
  else
    let text := if text.toList.getLast?.all (· == '\n') then text else text ++ "\n"
    text ++ "[exit " ++ toString output.exitCode ++ "]\n"

/-- The reply to one line of text: its output if it is no expansion and is run as it stands, else
the command that it expands to, with the command's output if it was run. -/
def handleLine (engine : Engine World) (session text : String) : Action World String :=
  fun world =>
    match engine.handle session text world with
    | (.error failure, world) => (.error failure, world)
    | (.ok (.printed command), world) => (.ok (command ++ "\n"), world)
    | (.ok (.executed command output), world) => (.ok (command ++ "\n" ++ shown output), world)
    | (.ok .passThrough, world) =>
      let (result, world) := engine.execute session text world
      (result.map shown, world)

/-! ## The loop -/

/-- How a run of the loop went. -/
structure Run (World : Type) where
  /-- The replies to the lines that were handled, in order. -/
  replies : List (Except Failure String)
  /-- The failure to read the line that ended the run, if it was one. -/
  stopped : Option Failure
  /-- The world at the end. -/
  world : World

/-- Handles lines until one of them ends the loop or none is left. -/
def runLines (engine : Engine World) (session : String) : List Octets → World → Run World
  | [], world => ⟨[], none, world⟩
  | line :: rest, world =>
    match Request.ofLine line with
    | .nothing => runLines engine session rest world
    | .leave => ⟨[], none, world⟩
    | .unreadable failure => ⟨[], some failure, world⟩
    | .handle text =>
      let (reply, world) := handleLine engine session text world
      let run := runLines engine session rest world
      { run with replies := reply :: run.replies }

/-- Runs the loop on an input. -/
def run (engine : Engine World) (session : String) (input : Octets) (world : World) : Run World :=
  runLines engine session (lines input) world

/-- The text that a run writes to its standard output: the replies that are no failures. -/
def Run.output (run : Run World) : String :=
  String.join (run.replies.filterMap Except.toOption)

/-- The failure that a reply is, if it is one. -/
def failure? : Except Failure String → Option Failure
  | .error failure => some failure
  | .ok _ => none

/-- The text that a run writes to its standard error: one line for each failed reply. What a log of
the program's events writes there, if one is kept, is no part of it. -/
def Run.errors (run : Run World) : String :=
  String.join ((run.replies.filterMap failure?).map fun failure => failure.render ++ "\n")

end HistoryExpansion.Repl
