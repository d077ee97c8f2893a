import HistoryExpansion.Proofs.Archive
import HistoryExpansion.Proofs.Backend
import HistoryExpansion.Proofs.Engine.Memory

/-!
# The records are the log of what was run

A run of an engine whose record services may be made to fail at any moment is followed by a log that
knows nothing of archives and services: each entry is a command that a step handed over
(`Step.handover?`). The log decides everything there is to see. A session's record holds the newest
of the commands that were handed over for it while appends were accepted, and the executor was
called for the commands that were handed over to be run: `records_eq_log`.
-/

namespace HistoryExpansion

open Backend (Call Refusals)

/-! ## The log -/

/-- A command that a step handed over. -/
structure Handover where
  /-- The session that the step was for. -/
  session : String
  /-- The command. -/
  command : String
  /-- Whether the command was to be run, and not only to be kept. -/
  isRun : Bool
  /-- Whether appends were accepted at the time. -/
  isKept : Bool
  deriving DecidableEq, Repr

namespace Handover

/-- The commands that were handed over for a session while appends were accepted. -/
def kept (session : String) (log : List Handover) : List String :=
  (log.filter fun entry => entry.isKept && entry.session == session).map command

/-- The commands that were to be run, with their sessions. -/
def ran (log : List Handover) : List (String × String) :=
  (log.filter isRun).map fun entry => (entry.session, entry.command)

/-- The record that a log amounts to for a session. -/
def record? (window : Nat) (log : List Handover) (session : String) : Option Record :=
  if kept session log = [] then none else some ⟨session, newest window (kept session log)⟩

theorem ran_append (log : List Handover) (entry : Handover) :
    ran (log ++ [entry]) =
      ran log ++ (if entry.isRun then [(entry.session, entry.command)] else []) := by
  unfold ran
  rw [List.filter_append, List.map_append]
  cases h : entry.isRun with
  | false => rw [List.filter_cons_of_neg (by rw [h]; exact Bool.false_ne_true)]; rfl
  | true => rw [List.filter_cons_of_pos h]; rfl

theorem getD_record? (window : Nat) (log : List Handover) (session : String) :
    (record? window log session).getD ⟨session, []⟩ =
      ⟨session, newest window (kept session log)⟩ := by
  unfold record?
  split
  · next h => rw [h, Option.getD_none, newest, List.drop_nil]
  · rfl

/-- A command that is kept for a session is pushed onto its record. -/
theorem record?_append_own {entry : Handover} (h : entry.isKept = true) (window : Nat)
    (log : List Handover) :
    record? window (log ++ [entry]) entry.session =
      some (((record? window log entry.session).getD ⟨entry.session, []⟩).push window
        entry.command) := by
  have hkept : kept entry.session (log ++ [entry]) =
      kept entry.session log ++ [entry.command] := by
    unfold kept
    rw [List.filter_append, List.map_append, List.filter_cons_of_pos (by simpa using h)]
    rfl
  have hne : kept entry.session log ++ [entry.command] ≠ [] := List.append_ne_nil_of_right_ne_nil _
    (List.cons_ne_nil _ _)
  rw [getD_record?, record?, hkept, if_neg hne, Record.push, newest_newest_append]

/-- A command that is refused, or kept for another session, leaves a session's record alone. -/
theorem record?_append_other {entry : Handover} {session : String}
    (h : entry.isKept = false ∨ entry.session ≠ session) (window : Nat) (log : List Handover) :
    record? window (log ++ [entry]) session = record? window log session := by
  have hkept : kept session (log ++ [entry]) = kept session log := by
    unfold kept
    have hdropped : ¬(entry.isKept && entry.session == session) = true := by
      rcases h with h | h
      · rw [h]
        exact Bool.false_ne_true
      · rw [beq_eq_false_iff_ne.2 h, Bool.and_false]
        exact Bool.false_ne_true
    have hlast : [entry].filter (fun entry => entry.isKept && entry.session == session) = [] :=
      List.filter_cons_of_neg hdropped
    rw [List.filter_append, List.map_append, hlast, List.map_nil, List.append_nil]
  rw [record?, record?, hkept]

end Handover

namespace Step

/-- The command that a step hands over, given what fetching the record gives. -/
def command? (trigger : String) (fetched : Except Failure (Option Record)) : Step → Option String
  | .record _ command => some command
  | .execute _ command => some command
  | .dispatch _ command printOnly => if printOnly then none else some command
  | .message session text =>
    match resolved? trigger session text fetched with
    | .ok (some (command, false)) => some command
    | _ => none
  | .expand .. | .history .. => none

/-- Whether the command that a step hands over is to be run. -/
def isRun : Step → Bool
  | .record .. => false
  | _ => true

/-- What a step adds to the log, given which services fail and the record of its session. -/
def handover? (trigger : String) (refusals : Refusals) (record : Option Record) (step : Step) :
    Option Handover :=
  (step.command? trigger (refusals.fetch.elim (.ok record) .error)).map fun command =>
    ⟨step.session, command, step.isRun, refusals.append.isNone⟩

end Step

/-- What can happen to an engine. -/
inductive Event where
  /-- A step is asked for. -/
  | take (step : Step)
  /-- From now on the services for records fail as it is said, or work again. -/
  | refuse (refusals : Refusals)
  deriving DecidableEq, Repr

/-- Follows a run: which services fail, and the log so far. -/
def Event.note (trigger : String) (window : Nat) :
    Refusals × List Handover → Event → Refusals × List Handover
  | (_, log), .refuse refusals => (refusals, log)
  | (refusals, log), .take step =>
    (refusals, log ++
      (step.handover? trigger refusals (Handover.record? window log step.session)).toList)

/-! ## Tasks and the log -/

namespace Step

/-- The task of a step keeps the command that the step hands over, and runs it if it is to. -/
theorem handed_task (trigger session : String) (fetched : Except Failure (Option Record))
    (step : Step) :
    (step.task trigger fetched).command? = step.command? trigger fetched ∧
      (step.task trigger fetched).ran session =
        if step.isRun then (step.command? trigger fetched).toList.map (session, ·) else [] := by
  cases step with
  | message _ text =>
    simp only [task, command?, isRun, ↓reduceIte]
    rcases resolved? trigger _ text fetched with failure | _ | ⟨command, printOnly⟩
    · exact ⟨rfl, rfl⟩
    · exact ⟨rfl, rfl⟩
    · cases printOnly <;> exact ⟨rfl, rfl⟩
  | expand _ text => exact ⟨rfl, rfl⟩
  | execute _ command => exact ⟨rfl, rfl⟩
  | record _ command => exact ⟨rfl, rfl⟩
  | history _ => exact ⟨rfl, rfl⟩
  | dispatch _ command printOnly => cases printOnly <;> exact ⟨rfl, rfl⟩

end Step

namespace Task

variable {World : Type} {backend : Backend World} {archive : World → Archive}

/-- What a task leaves of the records: its command is pushed unless appends are refused. -/
theorem carry_refusing_archive (h : backend.Serves archive) (session : String) (task : Task)
    (world : World) (refusals : Refusals) :
    archive (task.carry backend.refusing session (world, refusals)).2.1 =
      if refusals.append.isNone then
        task.command?.elim (archive world) ((archive world).push session)
      else archive world := by
  cases refusals with
  | mk fetch append =>
    cases append with
    | none =>
      cases task with
      | reply answer => rfl
      | keep command => exact h.append session command world
      | perform command wrap =>
        exact (h.run session command _).trans (h.append session command world)
    | some failure =>
      cases task with
      | reply answer => rfl
      | keep command => rfl
      | perform command wrap => exact h.run session command world

/-- A task does not change which services fail. -/
theorem carry_refusing_refusals (session : String) (task : Task) (world : World)
    (refusals : Refusals) :
    (task.carry backend.refusing session (world, refusals)).2.2 = refusals := by
  cases refusals with
  | mk fetch append =>
    cases append <;> cases task <;> rfl

end Task

namespace Engine

variable {World : Type} (engine : Engine World) {archive : World → Archive}

/-- The engine with record services that can be made to fail. -/
def refusing : Engine (World × Refusals) :=
  ⟨engine.trigger, engine.backend.refusing⟩

/-- What happens to a world, with a journal of the requests to the services. -/
def react (state : (World × Refusals) × List Call) : Event → (World × Refusals) × List Call
  | .take step => (engine.refusing.journaled.step step state).2
  | .refuse refusals => ((state.1.1, refusals), state.2)

theorem fetch_refusing (h : engine.backend.Serves archive) (session : String) (world : World)
    (refusals : Refusals) :
    engine.refusing.backend.fetch session (world, refusals) =
      (refusals.fetch.elim (.ok ((archive world).get? session)) .error, (world, refusals)) := by
  cases refusals with
  | mk fetch append =>
    cases fetch with
    | none =>
      show ((engine.backend.fetch session world).1,
        ((engine.backend.fetch session world).2, _)) = _
      rw [h.fetch]
      rfl
    | some failure => rfl

/-- The commands of a step's task, read off what fails and the session's record. -/
theorem taskIn_refusing (h : engine.backend.Serves archive) (step : Step) (world : World)
    (refusals : Refusals) :
    engine.refusing.taskIn step (world, refusals) =
      step.task engine.trigger
        (refusals.fetch.elim (.ok ((archive world).get? step.session)) .error) := by
  rw [taskIn, fetch_refusing engine h]
  rfl

/-! ## Single events -/

/-- A state of a run shows what was noted of the run. -/
structure Shows (archive : World → Archive) (window : Nat)
    (state : (World × Refusals) × List Call) (noted : Refusals × List Handover) : Prop where
  refusals : state.1.2 = noted.1
  bound : (archive state.1.1).window = window
  records : ∀ session,
    (archive state.1.1).get? session = Handover.record? window noted.2 session
  ran : Backend.ran state.2 = Handover.ran noted.2

/-- What a step leaves of the records and of the journal. -/
theorem react_take (h : engine.backend.Serves archive) (step : Step) (world : World)
    (refusals : Refusals) (journal : List Call) :
    let command? := step.command? engine.trigger
      (refusals.fetch.elim (.ok ((archive world).get? step.session)) .error)
    let state := engine.react ((world, refusals), journal) (.take step)
    archive state.1.1 = (if refusals.append.isNone then
        command?.elim (archive world) ((archive world).push step.session)
      else archive world) ∧
      state.1.2 = refusals ∧
      Backend.ran state.2 = Backend.ran journal ++
        (if step.isRun then command?.toList.map (step.session, ·) else []) := by
  have htask := engine.taskIn_refusing h step world refusals
  have hfetch : (engine.refusing.backend.fetch step.session (world, refusals)).2 =
      (world, refusals) := by
    rw [engine.fetch_refusing h]
  have hstep : (engine.react ((world, refusals), journal) (.take step)).1 =
      ((engine.refusing.taskIn step (world, refusals)).carry engine.backend.refusing step.session
        (world, refusals)).2 := by
    rw [react, step_journaled]
    exact congrArg Prod.snd (engine.refusing.step_of_fetch hfetch)
  obtain ⟨hcommand, hran⟩ := step.handed_task engine.trigger step.session
    (refusals.fetch.elim (.ok ((archive world).get? step.session)) .error)
  refine ⟨?_, ?_, ?_⟩
  · rw [hstep, htask, Task.carry_refusing_archive h, hcommand]
  · rw [hstep, Task.carry_refusing_refusals]
  · rw [react, ran_step_journaled, htask, hran]

variable {window : Nat} {state : (World × Refusals) × List Call}
  {noted : Refusals × List Handover}

/-- **One event** keeps a state in step with what is noted. -/
theorem react_shows (h : engine.backend.Serves archive) (hshows : Shows archive window state noted)
    (event : Event) :
    Shows archive window (engine.react state event) (event.note engine.trigger window noted) := by
  obtain ⟨⟨world, refusals⟩, journal⟩ := state
  obtain ⟨_, log⟩ := noted
  obtain ⟨rfl, hbound, hrecords, hran⟩ := hshows
  cases event with
  | refuse refusals => exact ⟨rfl, hbound, hrecords, hran⟩
  | take step =>
    obtain ⟨harchive, hrefusals, hcalls⟩ := engine.react_take h step world refusals journal
    simp only at hbound hrecords hran
    simp only [Event.note, Step.handover?, ← hrecords step.session]
    generalize step.command? engine.trigger
      (refusals.fetch.elim (.ok ((archive world).get? step.session)) .error) = handed
      at harchive hcalls ⊢
    cases handed with
    | none =>
      simp only [Option.elim_none, ite_self] at harchive
      simp only [Option.toList_none, List.map_nil, ite_self, List.append_nil] at hcalls
      simp only [Option.map_none, Option.toList_none, List.append_nil]
      refine ⟨hrefusals, ?_, fun session => ?_, hcalls.trans hran⟩
      · rw [harchive, hbound]
      · rw [harchive, hrecords]
    | some command =>
      simp only [Option.elim_some] at harchive
      simp only [Option.map_some, Option.toList_some]
      refine ⟨hrefusals, ?_, fun session => ?_, ?_⟩
      · rw [harchive]
        split
        · exact hbound
        · exact hbound
      · rw [harchive]
        generalize refusals.append.isNone = isKept
        cases isKept with
        | false =>
          rw [Handover.record?_append_other (.inl rfl)]
          exact hrecords session
        | true =>
          by_cases hs : step.session = session
          · subst hs
            rw [if_pos rfl, Archive.get?_push_self, hbound, hrecords]
            let entry : Handover := ⟨step.session, command, step.isRun, true⟩
            have hpushed := Handover.record?_append_own (show entry.isKept = true from rfl)
              window log
            exact hpushed.symm
          · rw [if_pos rfl, Archive.get?_push_of_ne hs, hrecords,
              Handover.record?_append_other (.inr hs)]
      · rw [hcalls, hran, Handover.ran_append]
        rfl

/-! ## Runs -/

theorem foldl_react_shows (h : engine.backend.Serves archive)
    (hshows : Shows archive window state noted) (events : List Event) :
    Shows archive window (events.foldl engine.react state)
      (events.foldl (Event.note engine.trigger window) noted) := by
  induction events generalizing state noted with
  | nil => exact hshows
  | cons event events ih => exact ih (engine.react_shows h hshows event)

/-- **The records are the log of what was run.** Whatever happens to an engine over an archive that
starts empty, a session's record is an end of the commands that were handed over for it while
appends were accepted, as long as the window allows, and is absent if there were none; it is the
record that the log amounts to, by which later messages are understood. The executor was called for
exactly the commands that were handed over to be run, and a further step that hands nothing over
changes neither the records nor these calls. -/
theorem records_eq_log {archive : World → Archive} (h : engine.backend.Serves archive)
    {window : Nat} {world : World} (hempty : archive world = Archive.empty window)
    (events : List Event) :
    let state := events.foldl engine.react ((world, {}), [])
    let noted := events.foldl (Event.note engine.trigger window) ({}, [])
    (∀ session,
      (archive state.1.1).get? session = Handover.record? window noted.2 session ∧
      ((archive state.1.1).get? session = none ↔ Handover.kept session noted.2 = []) ∧
      (Handover.kept session noted.2 ≠ [] →
        ∃ commands, (archive state.1.1).get? session = some ⟨session, commands⟩ ∧
          commands <:+ Handover.kept session noted.2 ∧
          commands.length = min (Handover.kept session noted.2).length window)) ∧
      Backend.ran state.2 = Handover.ran noted.2 ∧
      ∀ step : Step,
        step.handover? engine.trigger noted.1
            (Handover.record? window noted.2 step.session) = none →
          archive (engine.react state (.take step)).1.1 = archive state.1.1 ∧
            Backend.ran (engine.react state (.take step)).2 = Backend.ran state.2 := by
  have hstart : Shows archive window ((world, {}), []) ({}, []) := by
    refine ⟨rfl, ?_, fun session => ?_, rfl⟩
    · rw [hempty]
      rfl
    · rw [hempty]
      rfl
  intro state noted
  have hshows : Shows archive window state noted := engine.foldl_react_shows h hstart events
  refine ⟨fun session => ⟨hshows.records session, exists_cut_iff (hshows.records session)⟩,
    hshows.ran, fun step hnone => ?_⟩
  obtain ⟨harchive, -, hcalls⟩ := engine.react_take h step state.1.1 state.1.2 state.2
  rw [Step.handover?, Option.map_eq_none_iff, ← hshows.refusals, ← hshows.records] at hnone
  rw [hnone] at harchive hcalls
  simp only [Option.elim_none, ite_self] at harchive
  simp only [Option.toList_none, List.map_nil, ite_self, List.append_nil] at hcalls
  exact ⟨harchive, hcalls⟩

/-- Commands that messages refer to, evicted ones, and one that was run while appends failed. -/
theorem records_eq_log_refused :
    let engine := inMemory "!" fun _ command => .ok ⟨command, "", 0⟩
    let events : List Event := [.take (.record "s" "ls"), .take (.execute "s" "pwd"),
      .take (.message "s" " !-2 "), .refuse ⟨some (.storage "busy"), some (.storage "full")⟩,
      .take (.execute "s" "lost"), .take (.message "s" "!!"), .refuse {},
      .take (.message "s" "!!:p"), .take (.dispatch "t" "date" false)]
    let state := events.foldl engine.react ((Archive.empty 2, {}), [])
    engine.backend.Serves id ∧ id (Archive.empty 2) = Archive.empty 2 ∧
      state.1.1.get? "s" = some ⟨"s", ["pwd", "ls"]⟩ ∧
      state.1.1.get? "t" = some ⟨"t", ["date"]⟩ ∧
      state.1.1.get? "u" = none ∧
      Backend.ran state.2 = [("s", "pwd"), ("s", "ls"), ("s", "lost"), ("t", "date")] := by
  intro engine events state
  have h : engine.backend.Serves id := Backend.serves_inMemory _
  have hempty : id (Archive.empty 2) = Archive.empty 2 := rfl
  obtain ⟨hrecords, hran, -⟩ := engine.records_eq_log h hempty events
  refine ⟨h, hempty, (hrecords "s").1.trans ?_, (hrecords "t").1.trans ?_,
    (hrecords "u").1.trans ?_, hran.trans ?_⟩
  · decide +kernel
  · decide +kernel
  · decide +kernel
  · decide +kernel

end Engine

end HistoryExpansion
