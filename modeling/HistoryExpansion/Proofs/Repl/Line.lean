import HistoryExpansion.Proofs.Engine.Journal
import HistoryExpansion.Repl

/-!
# One line of text

A line is a step of the engine: a message if it refers to a command, and otherwise a command to keep
and run as it stands. The reply is the answer to that step put into words (`handleLine_eq_step`). So
a journal changes nothing of a line (`handleLine_journaled`), and a line has at most one command run
(`length_ran_ofLine`).
-/

namespace HistoryExpansion

open Backend (Call)

/-- The step that a line comes to. -/
def Step.ofLine (trigger session text : String) : Step :=
  if (Message.expansion? trigger text).isSome then .message session text
  else .execute session text

@[simp] theorem Step.session_ofLine (trigger session text : String) :
    (ofLine trigger session text).session = session := by
  unfold ofLine
  split <;> rfl

theorem Task.length_ran_le (session : String) (task : Task) : (task.ran session).length ≤ 1 := by
  cases task with
  | reply answer => exact Nat.zero_le 1
  | keep command => exact Nat.zero_le 1
  | perform command wrap => exact Nat.le_refl 1

namespace Engine

variable {World : Type} (engine : Engine World)

theorem dispatch_ne_passThrough (session command : String) (printOnly : Bool)
    (world left : World) :
    engine.dispatch session command printOnly world ≠ (.ok .passThrough, left) := by
  rw [dispatch]
  split
  · rintro ⟨⟩
  · split <;> rintro ⟨⟩

/-- A text that refers to a command is never left alone. -/
theorem handle_ne_passThrough {session text : String} {asked : Message}
    (h : Message.expansion? engine.trigger text = some asked) (world left : World) :
    engine.handle session text world ≠ (.ok .passThrough, left) := by
  rw [handle, engine.resolveMessage_of_some h]
  cases (engine.backend.fetch session world).1.bind fun record =>
      resolve session record asked.expression with
  | error failure => rintro ⟨⟩
  | ok command => exact engine.dispatch_ne_passThrough session command asked.printOnly _ left

end Engine

namespace Repl

variable {World : Type} (engine : Engine World)

/-- The answer to the step of a line, as it is shown. -/
def replyOf : Answer → String
  | .outcome (.printed command) => command ++ "\n"
  | .outcome (.executed command output) => command ++ "\n" ++ shown output
  | .output output => shown output
  | .outcome .passThrough | .expansion _ | .recorded | .history _ => ""

/-- **A line is a step** of the engine, and its reply is the answer to the step. -/
theorem handleLine_eq_step (session text : String) (world : World) :
    handleLine engine session text world =
      ((engine.step (.ofLine engine.trigger session text) world).1.map replyOf,
        (engine.step (.ofLine engine.trigger session text) world).2) := by
  unfold handleLine Step.ofLine
  cases hasked : Message.expansion? engine.trigger text with
  | none =>
    have hhandle : engine.handle session text world = (.ok .passThrough, world) := by
      rw [Engine.handle, engine.resolveMessage_of_none hasked]
    rw [hhandle, Option.isSome_none, if_neg Bool.false_ne_true, Engine.step,
      Engine.answering_apply]
    rcases hexecute : engine.execute session text world with ⟨failure | output, left⟩ <;>
      simp only [hexecute] <;> rfl
  | some asked =>
    rw [Option.isSome_some, if_pos rfl, Engine.step, Engine.answering_apply]
    rcases hhandle : engine.handle session text world with ⟨failure | outcome, left⟩
    · rfl
    · cases outcome with
      | passThrough => exact absurd hhandle (engine.handle_ne_passThrough hasked world left)
      | printed command => rfl
      | executed command output => rfl

/-- The requests to the services that a line comes to in a world. -/
def lineCalls (session text : String) (world : World) : List Call :=
  engine.lookups (.ofLine engine.trigger session text) ++
    (engine.taskIn (.ofLine engine.trigger session text) world).calls session

/-- **A journal changes nothing of a line.** -/
theorem handleLine_journaled (session text : String) (world : World) (journal : List Call) :
    handleLine engine.journaled session text (world, journal) =
      ((handleLine engine session text world).1,
        ((handleLine engine session text world).2,
          journal ++ lineCalls engine session text world)) := by
  rw [handleLine_eq_step, handleLine_eq_step, lineCalls, ← List.append_assoc,
    Engine.trigger_journaled, Engine.step_journaled, Step.session_ofLine]

/-- A line has at most one command run. -/
theorem length_ran_lineCalls_le (session text : String) (world : World) :
    (Backend.ran (lineCalls engine session text world)).length ≤ 1 := by
  rw [lineCalls, Backend.ran_append, Engine.ran_lookups, List.nil_append, Task.ran_calls]
  exact Task.length_ran_le session _

end Repl

end HistoryExpansion
