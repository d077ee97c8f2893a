import HistoryExpansion.Proofs.Engine.Task

/-!
# Steps under a journal

A journal changes nothing that it notes: a step over `Backend.journaled` answers and acts as it does
over the backend alone (`step_journaled`), and the journal grows by the requests that the step comes
to. Of these only the task's own request to run a command counts for `Backend.ran`
(`ran_step_journaled`).
-/

namespace HistoryExpansion

open Backend (Call)

namespace Task

/-- The command that a task hands over to be kept. -/
def command? : Task → Option String
  | reply _ => none
  | keep command => some command
  | perform command _ => some command

/-- The requests that a task comes to. -/
def calls (session : String) : Task → List Call
  | reply _ => []
  | keep command => [.append session command]
  | perform command _ => [.append session command, .run session command]

/-- The commands that a task has run. -/
def ran (session : String) : Task → List (String × String)
  | reply _ => []
  | keep _ => []
  | perform command _ => [(session, command)]

theorem ran_calls (session : String) (task : Task) :
    Backend.ran (task.calls session) = task.ran session := by
  cases task <;> rfl

theorem carry_journaled {World : Type} (backend : Backend World) (session : String) (task : Task)
    (world : World) (journal : List Call) :
    task.carry backend.journaled session (world, journal) =
      ((task.carry backend session world).1,
        ((task.carry backend session world).2, journal ++ task.calls session)) := by
  cases task with
  | reply answer => simp only [carry, calls, List.append_nil]
  | keep command => rfl
  | perform command wrap =>
    show (_, (_, journal ++ [_] ++ [_])) = _
    rw [List.append_assoc]
    rfl

end Task

theorem Backend.ran_append (calls more : List Call) :
    ran (calls ++ more) = ran calls ++ ran more :=
  List.filterMap_append

namespace Engine

variable {World : Type} (engine : Engine World)

/-- The engine with a journal of the requests to its services. -/
def journaled : Engine (World × List Call) :=
  ⟨engine.trigger, engine.backend.journaled⟩

@[simp] theorem trigger_journaled : engine.journaled.trigger = engine.trigger := rfl

/-- The requests that looking the record of a step up comes to. -/
def lookups (step : Step) : List Call :=
  if step.consults engine.trigger then [.fetch step.session] else []

theorem ran_lookups (step : Step) : Backend.ran (engine.lookups step) = [] := by
  unfold lookups
  split <;> rfl

theorem consult_journaled (step : Step) (world : World) (journal : List Call) :
    engine.journaled.consult step (world, journal) =
      ((engine.consult step world).1,
        ((engine.consult step world).2, journal ++ engine.lookups step)) := by
  unfold consult lookups journaled
  cases step.consults engine.trigger with
  | false => simp only [Bool.false_eq_true, ↓reduceIte, List.append_nil]
  | true => rfl

/-- **A journal changes nothing**: it only grows by the requests of the step. -/
theorem step_journaled (step : Step) (world : World) (journal : List Call) :
    engine.journaled.step step (world, journal) =
      ((engine.step step world).1,
        ((engine.step step world).2,
          journal ++ engine.lookups step ++ (engine.taskIn step world).calls step.session)) := by
  rw [step_eq_carry, step_eq_carry, consult_journaled]
  exact Task.carry_journaled _ _ _ _ _

/-- What a journal notes of a run does not change where the run ends. -/
theorem run_journaled (steps : List Step) (world : World) (journal : List Call) :
    (engine.journaled.run steps (world, journal)).2.1 = (engine.run steps world).2 := by
  induction steps generalizing world journal with
  | nil => rfl
  | cons step steps ih =>
    rw [run_cons, step_journaled]
    exact ih _ _

/-- The commands that a step adds to those that were run. -/
theorem ran_step_journaled (step : Step) (world : World) (journal : List Call) :
    Backend.ran (engine.journaled.step step (world, journal)).2.2 =
      Backend.ran journal ++ (engine.taskIn step world).ran step.session := by
  rw [step_journaled, Backend.ran_append, Backend.ran_append, ran_lookups, List.append_nil,
    Task.ran_calls]

end Engine

end HistoryExpansion
