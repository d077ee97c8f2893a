import HistoryExpansion.Engine

/-!
# Runs of the engine

A run is a list of steps, each one request to the engine on behalf of a session. `Engine.run`
carries the world through all of them and collects the answers.
-/

namespace HistoryExpansion

/-- One request to the engine. -/
inductive Step where
  /-- A message comes in. -/
  | message (session text : String)
  /-- A message is to be expanded only. -/
  | expand (session text : String)
  /-- A command is to be kept and run. -/
  | execute (session command : String)
  /-- A command is to be kept only. -/
  | record (session command : String)
  /-- The session's record is asked for. -/
  | history (session : String)
  /-- A resolved command is to be printed or run. -/
  | dispatch (session command : String) (printOnly : Bool)
  deriving DecidableEq, Repr

/-- The session that a step is for. -/
def Step.session : Step → String
  | .message session _ => session
  | .expand session _ => session
  | .execute session _ => session
  | .record session _ => session
  | .history session => session
  | .dispatch session _ _ => session

/-- The engine's answer to a step that did not fail. -/
inductive Answer where
  /-- What became of a message or of a dispatched command. -/
  | outcome (outcome : Outcome)
  /-- The command that a message expands to, if it is an expansion. -/
  | expansion (command : Option String)
  /-- The output of a command. -/
  | output (output : Output)
  /-- A command was kept. -/
  | recorded
  /-- The session's record. -/
  | history (record : Option Record)
  deriving DecidableEq, Repr

namespace Engine

variable {World : Type}

/-- An action with its value wrapped. -/
def answering {α : Type} (wrap : α → Answer) (action : Action World α) : Action World Answer :=
  fun world =>
    let (result, world) := action world
    (result.map wrap, world)

/-- Takes one step. -/
def step (engine : Engine World) : Step → Action World Answer
  | .message session text => answering .outcome (engine.handle session text)
  | .expand session text => answering .expansion (engine.expand session text)
  | .execute session command => answering .output (engine.execute session command)
  | .record session command => answering (fun _ => .recorded) (engine.record session command)
  | .history session => answering .history (engine.history session)
  | .dispatch session command printOnly =>
    answering .outcome (engine.dispatch session command printOnly)

/-- Takes the steps one after the other; no failure ends the run. -/
def run (engine : Engine World) : List Step → World → List (Except Failure Answer) × World
  | [], world => ([], world)
  | first :: rest, world =>
    let (answer, world) := engine.step first world
    let (answers, world) := engine.run rest world
    (answer :: answers, world)

end Engine

end HistoryExpansion
