import HistoryExpansion.Archive
import HistoryExpansion.Failure

/-!
# Backends

The engine leans on three services: fetching a session's record, appending a command to it, and
running a command. A `Backend` bundles them as functions on a world that they may change. A service
always leaves a world behind, whether it succeeds or fails.
-/

namespace HistoryExpansion

/-- Something done in a world: it gives a value or a failure, and leaves a world behind. -/
abbrev Action (World α : Type) := World → Except Failure α × World

/-- What a command printed and how it ended. -/
structure Output where
  /-- The text on its standard output. -/
  stdout : String
  /-- The text on its standard error. -/
  stderr : String
  /-- Its exit code; minus one if a signal ended it. -/
  exitCode : Int
  deriving DecidableEq, Repr

/-- Whether a command ended well. -/
def Output.success (output : Output) : Bool :=
  output.exitCode == 0

/-- The services that an engine leans on. -/
structure Backend (World : Type) where
  /-- Gives the record of a session, if any command was ever kept for it. -/
  fetch : (session : String) → Action World (Option Record)
  /-- Adds a command to the record of a session. -/
  append : (session command : String) → Action World Unit
  /-- Runs a command on behalf of a session. -/
  run : (session command : String) → Action World Output

namespace Backend

/-- A backend that keeps its records in an archive and whose commands answer by what they are. -/
def inMemory (answer : (session command : String) → Except Failure Output) : Backend Archive where
  fetch session archive := (.ok (archive.get? session), archive)
  append session command archive := (.ok (), archive.push session command)
  run session command archive := (answer session command, archive)

/-- The failures that the services for records are made to give, if any. -/
structure Refusals where
  /-- The failure of every fetch. -/
  fetch : Option Failure := none
  /-- The failure of every append. -/
  append : Option Failure := none
  deriving DecidableEq, Repr

/-- A backend whose fetches and appends can be made to fail; one that fails does nothing. -/
def refusing {World : Type} (backend : Backend World) : Backend (World × Refusals) where
  fetch session world :=
    match world.2.fetch with
    | some failure => (.error failure, world)
    | none =>
      let (answer, rest) := backend.fetch session world.1
      (answer, (rest, world.2))
  append session command world :=
    match world.2.append with
    | some failure => (.error failure, world)
    | none =>
      let (answer, rest) := backend.append session command world.1
      (answer, (rest, world.2))
  run session command world :=
    let (answer, rest) := backend.run session command world.1
    (answer, (rest, world.2))

/-- A request to one of the services. -/
inductive Call where
  /-- The record of a session was asked for. -/
  | fetch (session : String)
  /-- A command was handed over to be kept. -/
  | append (session command : String)
  /-- A command was handed over to be run. -/
  | run (session command : String)
  deriving DecidableEq, Repr

/-- A backend that notes every request, failing ones too, newest last. -/
def journaled {World : Type} (backend : Backend World) : Backend (World × List Call) where
  fetch session world :=
    let (answer, rest) := backend.fetch session world.1
    (answer, (rest, world.2 ++ [.fetch session]))
  append session command world :=
    let (answer, rest) := backend.append session command world.1
    (answer, (rest, world.2 ++ [.append session command]))
  run session command world :=
    let (answer, rest) := backend.run session command world.1
    (answer, (rest, world.2 ++ [.run session command]))

/-- The commands that were run, with their sessions, in order. -/
def ran (calls : List Call) : List (String × String) :=
  calls.filterMap fun
    | .run session command => some (session, command)
    | _ => none

end Backend

end HistoryExpansion
