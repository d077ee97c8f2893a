import HistoryExpansion.Proofs.Archive
import HistoryExpansion.Proofs.Engine.Memory

/-!
# Sessions do not interfere

An engine over an archive in memory serves all sessions from one map. Still a session cannot tell
whether the others are there: leaving their steps out of a run changes neither an answer to one of
its own steps, nor the commands run for it, nor its record (`run_filter_session`). Two worlds that
agree on a session (`AgreeOn`) are kept in agreement by the session's own steps, taken in both, and
by the steps of others, taken in one.
-/

namespace HistoryExpansion

open Backend (Call)

variable {session : String}

/-! ## Archives that agree -/

/-- A command that is handed over on behalf of another session. -/
theorem Archive.get?_elim_push_of_ne {archive : Archive} {other : String} (h : other ≠ session)
    (command? : Option String) :
    (command?.elim archive (archive.push other)).get? session = archive.get? session := by
  cases command? with
  | none => rfl
  | some command => exact get?_push_of_ne h command

/-- Two archives with the same window and the same record of a session. -/
structure Archive.AgreeOn (session : String) (left right : Archive) : Prop where
  window : left.window = right.window
  record : left.get? session = right.get? session

namespace Archive.AgreeOn

variable {left right : Archive}

/-- A command that is handed over on behalf of the session, to both archives. -/
theorem own (h : AgreeOn session left right) (command? : Option String) :
    AgreeOn session (command?.elim left (left.push session))
      (command?.elim right (right.push session)) := by
  cases command? with
  | none => exact h
  | some command =>
    refine ⟨h.window, ?_⟩
    simp only [Option.elim_some, get?_push_self, h.window, h.record]

/-- A command that is handed over on behalf of another session, to one of the archives. -/
theorem other {other : String} (h : AgreeOn session left right) (hne : other ≠ session)
    (command? : Option String) :
    AgreeOn session (command?.elim left (left.push other)) right := by
  refine ⟨?_, (get?_elim_push_of_ne hne command?).trans h.record⟩
  cases command? with
  | none => exact h.window
  | some command => exact h.window

end Archive.AgreeOn

namespace Engine

/-! ## What a session sees of a run -/

/-- The answers that a session got in a run of steps. -/
def answersTo (session : String) (steps : List Step) (answers : List (Except Failure Answer)) :
    List (Except Failure Answer) :=
  ((steps.zip answers).filter fun taken => taken.1.session == session).map Prod.snd

/-- The commands that were run for a session. -/
def ranFor (session : String) (calls : List Call) : List (String × String) :=
  (Backend.ran calls).filter fun call => call.1 == session

theorem answersTo_cons_own {step : Step} (h : step.session = session)
    (answer : Except Failure Answer) (steps : List Step) (answers : List (Except Failure Answer)) :
    answersTo session (step :: steps) (answer :: answers) =
      answer :: answersTo session steps answers := by
  unfold answersTo
  rw [List.zip_cons_cons, List.filter_cons_of_pos (by simpa using h), List.map_cons]

theorem answersTo_cons_other {step : Step} (h : step.session ≠ session)
    (answer : Except Failure Answer) (steps : List Step) (answers : List (Except Failure Answer)) :
    answersTo session (step :: steps) (answer :: answers) = answersTo session steps answers := by
  unfold answersTo
  rw [List.zip_cons_cons, List.filter_cons_of_neg (by simpa using h)]

theorem filter_ran_own (session : String) (task : Task) :
    (task.ran session).filter (fun call => call.1 == session) = task.ran session := by
  cases task with
  | reply answer => rfl
  | keep command => rfl
  | perform command wrap => exact List.filter_cons_of_pos (beq_self_eq_true session)

theorem filter_ran_other {other : String} (h : other ≠ session) (task : Task) :
    (task.ran other).filter (fun call => call.1 == session) = [] := by
  cases task with
  | reply answer => rfl
  | keep command => rfl
  | perform command wrap => exact List.filter_cons_of_neg (by simpa using h)

/-- A world of a run of all sessions and one of a run of a single session, which agree on that
session's record and on the commands that were run for it. -/
structure AgreeOn (session : String) (all own : Archive × List Call) : Prop where
  archives : Archive.AgreeOn session all.1 own.1
  ran : ranFor session all.2 = Backend.ran own.2

variable (trigger : String) (answer : (session command : String) → Except Failure Output)
  {all own : Archive × List Call}

/-! ## Steps -/

/-- A step of the session itself, taken in both worlds. -/
theorem step_own {step : Step} (h : AgreeOn step.session all own) :
    ((inMemory trigger answer).journaled.step step all).1 =
        ((inMemory trigger answer).journaled.step step own).1 ∧
      AgreeOn step.session ((inMemory trigger answer).journaled.step step all).2
        ((inMemory trigger answer).journaled.step step own).2 := by
  obtain ⟨left, journal⟩ := all
  obtain ⟨right, notes⟩ := own
  obtain ⟨harchives, hran⟩ := h
  have htask : (inMemory trigger answer).taskIn step left =
      (inMemory trigger answer).taskIn step right :=
    congrArg (fun record => step.task trigger (.ok record)) harchives.record
  refine ⟨?_, ?_, ?_⟩
  · simp only [step_journaled, step_inMemory, harchives.record]
    exact Task.carry_inMemory_answer _ _ _ _
  · simp only [step_journaled, step_inMemory, harchives.record, Task.carry_inMemory_archive]
    exact harchives.own _
  · simp only [ranFor, ran_step_journaled, List.filter_append, filter_ran_own, htask]
    exact congrArg (· ++ _) hran

/-- A step of another session, taken in one of the worlds. -/
theorem step_other {step : Step} (h : AgreeOn session all own) (hne : step.session ≠ session) :
    AgreeOn session ((inMemory trigger answer).journaled.step step all).2 own := by
  obtain ⟨left, journal⟩ := all
  obtain ⟨harchives, hran⟩ := h
  refine ⟨?_, ?_⟩
  · simp only [step_journaled, step_inMemory, Task.carry_inMemory_archive]
    exact harchives.other hne _
  · simp only [ranFor, ran_step_journaled, List.filter_append, filter_ran_other hne,
      List.append_nil]
    exact hran

/-! ## Runs -/

/-- The steps of other sessions can be left out of a run between worlds that agree on a session. -/
theorem run_agreeOn (h : AgreeOn session all own) (steps : List Step) :
    answersTo session steps ((inMemory trigger answer).journaled.run steps all).1 =
        ((inMemory trigger answer).journaled.run
          (steps.filter fun step => step.session == session) own).1 ∧
      AgreeOn session ((inMemory trigger answer).journaled.run steps all).2
        ((inMemory trigger answer).journaled.run
          (steps.filter fun step => step.session == session) own).2 := by
  induction steps generalizing all own with
  | nil => exact ⟨rfl, h⟩
  | cons step steps ih =>
    by_cases hs : step.session = session
    · subst hs
      obtain ⟨hanswer, hagree⟩ := step_own trigger answer h
      obtain ⟨hanswers, hend⟩ := ih hagree
      have hkept : (step :: steps).filter (fun other => other.session == step.session) =
          step :: steps.filter fun other => other.session == step.session :=
        List.filter_cons_of_pos (beq_self_eq_true step.session)
      rw [hkept, run_cons, run_cons, answersTo_cons_own rfl, hanswer, hanswers]
      exact ⟨rfl, hend⟩
    · obtain ⟨hanswers, hend⟩ := ih (step_other trigger answer h hs)
      rw [List.filter_cons_of_neg (by simpa using hs), run_cons, answersTo_cons_other hs]
      exact ⟨hanswers, hend⟩

/-- **Sessions do not interfere.** Leaving the steps of all other sessions out of a run changes none
of a session's answers, none of the commands run for it, and not its record. -/
theorem run_filter_session (archive : Archive) (steps : List Step) (session : String) :
    let engine := (inMemory trigger answer).journaled
    let all := engine.run steps (archive, [])
    let alone := engine.run (steps.filter fun step => step.session == session) (archive, [])
    answersTo session steps all.1 = alone.1 ∧
      ranFor session all.2.2 = Backend.ran alone.2.2 ∧
      all.2.1.get? session = alone.2.1.get? session := by
  have hstart : AgreeOn session (archive, []) (archive, []) := ⟨⟨rfl, rfl⟩, rfl⟩
  obtain ⟨hanswers, harchives, hran⟩ := run_agreeOn trigger answer hstart steps
  exact ⟨hanswers, hran, harchives.record⟩

end Engine

end HistoryExpansion
