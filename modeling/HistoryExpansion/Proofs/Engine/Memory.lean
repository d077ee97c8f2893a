import HistoryExpansion.Proofs.Engine.Journal

/-!
# Steps over an archive in memory

An engine whose records are an archive in memory and whose commands answer by what they are. Each of
its steps is read off the record of one session: `step_inMemory`.
-/

namespace HistoryExpansion

namespace Task

variable {answer : (session command : String) → Except Failure Output}

/-- What a task leaves of an archive in memory. -/
theorem carry_inMemory_archive (session : String) (task : Task) (archive : Archive) :
    (task.carry (Backend.inMemory answer) session archive).2 =
      task.command?.elim archive (archive.push session) := by
  cases task <;> rfl

/-- The answer to a task does not depend on the archive. -/
theorem carry_inMemory_answer (session : String) (task : Task) (left right : Archive) :
    (task.carry (Backend.inMemory answer) session left).1 =
      (task.carry (Backend.inMemory answer) session right).1 := by
  cases task <;> rfl

end Task

namespace Engine

/-- The engine over an archive in memory, with commands that answer by what they are. -/
def inMemory (trigger : String) (answer : (session command : String) → Except Failure Output) :
    Engine Archive :=
  ⟨trigger, Backend.inMemory answer⟩

/-- A step over an archive in memory is read off the session's record alone. -/
theorem step_inMemory (trigger : String)
    (answer : (session command : String) → Except Failure Output) (step : Step)
    (archive : Archive) :
    (inMemory trigger answer).step step archive =
      (step.task trigger (.ok (archive.get? step.session))).carry (Backend.inMemory answer)
        step.session archive := by
  rw [step_of_fetch _ rfl]
  rfl

end Engine

end HistoryExpansion
