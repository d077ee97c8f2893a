import HistoryExpansion.Proofs.Archive
import HistoryExpansion.Proofs.Backend
import HistoryExpansion.Proofs.Engine.Journal

/-!
# What a step leaves of the records

Over a backend whose records are those of an archive, a step reads one session's record and pushes
at most one command onto it (`archive_step`), whatever its executor does. An archive that is bounded
by its window stays so through every run (`bounded_run`).
-/

namespace HistoryExpansion

variable {World : Type} {archive : World → Archive}

/-- What a task leaves of the records: the command that it hands over is pushed. -/
theorem Task.carry_archive {backend : Backend World} (h : backend.Serves archive)
    (session : String) (task : Task) (world : World) :
    archive (task.carry backend session world).2 =
      task.command?.elim (archive world) ((archive world).push session) := by
  cases task with
  | reply answer => rfl
  | keep command => exact h.append session command world
  | perform command wrap =>
    exact (h.run session command _).trans (h.append session command world)

namespace Engine

variable {engine : Engine World}

/-- The task of a step is read off the session's record. -/
theorem taskIn_of_serves (h : engine.backend.Serves archive) (step : Step) (world : World) :
    engine.taskIn step world =
      step.task engine.trigger (.ok ((archive world).get? step.session)) := by
  rw [taskIn, h.fetch]

/-- A text is resolved against the session's record, and nothing is changed by it. -/
theorem resolveMessage_of_serves (h : engine.backend.Serves archive) (session text : String)
    (world : World) :
    engine.resolveMessage session text world =
      (Step.resolved? engine.trigger session text (.ok ((archive world).get? session)),
        world) := by
  cases hasked : Message.expansion? engine.trigger text with
  | none =>
    rw [engine.resolveMessage_of_none hasked, Step.resolved?, hasked]
  | some asked =>
    rw [engine.resolveMessage_of_some hasked, h.fetch, Step.resolved?, hasked]

/-- **What a step leaves of the records.** -/
theorem archive_step (h : engine.backend.Serves archive) (step : Step) (world : World) :
    archive (engine.step step world).2 =
      (step.task engine.trigger (.ok ((archive world).get? step.session))).command?.elim
        (archive world) ((archive world).push step.session) := by
  have hfetch : (engine.backend.fetch step.session world).2 = world := by rw [h.fetch]
  rw [engine.step_of_fetch hfetch, Task.carry_archive h, taskIn_of_serves h]

theorem window_step (h : engine.backend.Serves archive) (step : Step) (world : World) :
    (archive (engine.step step world).2).window = (archive world).window := by
  rw [archive_step h]
  cases (step.task engine.trigger (.ok ((archive world).get? step.session))).command? <;> rfl

theorem bounded_step (h : engine.backend.Serves archive) {world : World}
    (hbounded : (archive world).Bounded) (step : Step) :
    (archive (engine.step step world).2).Bounded := by
  rw [archive_step h]
  cases (step.task engine.trigger (.ok ((archive world).get? step.session))).command? with
  | none => exact hbounded
  | some command => exact hbounded.push step.session command

theorem window_run (h : engine.backend.Serves archive) (steps : List Step) (world : World) :
    (archive (engine.run steps world).2).window = (archive world).window := by
  induction steps generalizing world with
  | nil => rfl
  | cons step steps ih => exact (ih _).trans (window_step h step world)

/-- No run makes a record longer than the window. -/
theorem bounded_run (h : engine.backend.Serves archive) (steps : List Step) {world : World}
    (hbounded : (archive world).Bounded) : (archive (engine.run steps world).2).Bounded := by
  induction steps generalizing world with
  | nil => exact hbounded
  | cons step steps ih => exact ih (bounded_step h hbounded step)

end Engine

end HistoryExpansion
