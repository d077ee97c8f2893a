import HistoryExpansion.Backend
import HistoryExpansion.Lookup
import HistoryExpansion.Message

/-!
# The engine

A message goes through the engine in one pass: the trigger is taken off, the body is read as an
expression, the expression is resolved against the session's record, and the command found is
printed or run. A command is always kept in the record before it is run.
-/

namespace HistoryExpansion

/-- What became of a message. -/
inductive Outcome where
  /-- The message is no expansion and was left alone. -/
  | passThrough
  /-- The command that the message refers to was asked for and not run. -/
  | printed (command : String)
  /-- The command that the message refers to was run. -/
  | executed (command : String) (output : Output)
  deriving DecidableEq, Repr

/-- An engine: the trigger of its messages and the services it leans on. -/
structure Engine (World : Type) where
  /-- What a message must start with. -/
  trigger : String
  /-- Where records are kept and commands are run. -/
  backend : Backend World

namespace Engine

variable {World : Type}

/-- The message that a text is to this engine. -/
def read? (engine : Engine World) (text : String) : Option Message :=
  Message.read? engine.trigger text

/-- The command that a text refers to, and whether it is only to be printed; nothing for a text that
is no expansion, and then the record is not even fetched. -/
def resolveMessage (engine : Engine World) (session text : String) :
    Action World (Option (String × Bool)) := fun world =>
  match engine.read? text with
  | none => (.ok none, world)
  | some message =>
    if message.expression.isExpansion then
      match engine.backend.fetch session world with
      | (.error failure, world) => (.error failure, world)
      | (.ok record, world) =>
        match resolve session record message.expression with
        | .error failure => (.error failure, world)
        | .ok command => (.ok (some (command, message.printOnly)), world)
    else (.ok none, world)

/-- The command that a text refers to, without running it. -/
def expand (engine : Engine World) (session text : String) : Action World (Option String) :=
  fun world =>
    match engine.resolveMessage session text world with
    | (.error failure, world) => (.error failure, world)
    | (.ok found, world) => (.ok (found.map Prod.fst), world)

/-- Keeps a command in the session's record without running it. -/
def record (engine : Engine World) (session command : String) : Action World Unit :=
  engine.backend.append session command

/-- Keeps a command and then runs it. A record that cannot be kept does not stop the command. -/
def execute (engine : Engine World) (session command : String) : Action World Output :=
  fun world =>
    let (_, world) := engine.record session command world
    engine.backend.run session command world

/-- Prints a command, or keeps and runs it. -/
def dispatch (engine : Engine World) (session command : String) (printOnly : Bool) :
    Action World Outcome := fun world =>
  if printOnly then (.ok (.printed command), world)
  else
    match engine.execute session command world with
    | (.error failure, world) => (.error failure, world)
    | (.ok output, world) => (.ok (.executed command output), world)

/-- Handles an incoming message. -/
def handle (engine : Engine World) (session text : String) : Action World Outcome := fun world =>
  match engine.resolveMessage session text world with
  | (.error failure, world) => (.error failure, world)
  | (.ok none, world) => (.ok .passThrough, world)
  | (.ok (some (command, printOnly)), world) => engine.dispatch session command printOnly world

/-- The record of a session. -/
def history (engine : Engine World) (session : String) : Action World (Option Record) :=
  engine.backend.fetch session

end Engine

end HistoryExpansion
