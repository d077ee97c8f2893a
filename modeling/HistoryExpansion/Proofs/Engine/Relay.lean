import HistoryExpansion.Proofs.Engine.Journal

/-!
# What becomes of the services' failures

An engine asks its three services for what it needs, and each of them may fail at any request. A
failed fetch ends a message with that very failure; a failed append is passed over; a failed run is
the answer. `resolveMessage` decides the course of a text, so what `handle` and `expand` make of it
is said once for each of its results (`handle_of_error`, `handle_of_none`, `handle_of_some`,
`expand_of_resolved`). The requests of every course and the order in which they are made are
`services_relayed`.
-/

namespace HistoryExpansion

open Backend (Call Refusals)

namespace Engine

variable {World : Type} (engine : Engine World) {session text command : String}
  {world left : World} {failure : Failure}

/-! ## The course of a text -/

theorem handle_of_error (h : engine.resolveMessage session text world = (.error failure, left)) :
    engine.handle session text world = (.error failure, left) := by
  simp only [handle, h]

theorem handle_of_none (h : engine.resolveMessage session text world = (.ok none, left)) :
    engine.handle session text world = (.ok .passThrough, left) := by
  simp only [handle, h]

theorem handle_of_some {printOnly : Bool}
    (h : engine.resolveMessage session text world = (.ok (some (command, printOnly)), left)) :
    engine.handle session text world = engine.dispatch session command printOnly left := by
  simp only [handle, h]

theorem expand_of_resolved {found : Except Failure (Option (String × Bool))}
    (h : engine.resolveMessage session text world = (found, left)) :
    engine.expand session text world = (found.map (Option.map Prod.fst), left) := by
  cases found with
  | error failure => simp only [expand, h, Except.map]
  | ok found => simp only [expand, h, Except.map]

/-- A command that is to be run is kept first, and the answer is that of the run alone. -/
theorem dispatch_run (session command : String) (world : World) :
    engine.dispatch session command false world =
      ((engine.execute session command world).1.map (.executed command),
        (engine.execute session command world).2) := by
  rw [dispatch, if_neg Bool.false_ne_true]
  rcases engine.execute session command world with ⟨failure | output, left⟩ <;> rfl

/-! ## The requests of a text -/

/-- The record is asked for once, and only if the text refers to a command. -/
theorem resolveMessage_journaled {asked : Message}
    (h : Message.expansion? engine.trigger text = some asked) (world : World)
    (journal : List Call) :
    engine.journaled.resolveMessage session text (world, journal) =
      (((engine.backend.fetch session world).1.bind fun record =>
          resolve session record asked.expression).map fun command =>
            some (command, asked.printOnly),
        ((engine.backend.fetch session world).2, journal ++ [.fetch session])) :=
  engine.journaled.resolveMessage_of_some h (world, journal)

theorem execute_journaled (session command : String) (world : World) (journal : List Call) :
    engine.journaled.execute session command (world, journal) =
      ((engine.execute session command world).1, ((engine.execute session command world).2,
        journal ++ [.append session command, .run session command])) := by
  rw [← List.singleton_append, ← List.append_assoc]
  rfl

/-- **The services' failures are relayed, passed over or avoided.** Whatever the services give and
at whichever request they fail: a text that refers to no command asks nothing of them. Any other
text asks for the record once. If that fails, or if the record has no such command, the failure is
the answer and nothing else is asked for, and neither is it if the command is only to be printed.
Otherwise the command that was found is handed over to be kept and then to be run, once each. What
the first of these gives does not matter; what the second gives is the answer, and what the first
did to the records stays done if running a command does not touch them. A command that is to be
executed takes the same course without the record, and one that is to be recorded gives what keeping
it gives. -/
theorem services_relayed (session text command : String) (world : World) (journal : List Call) :
    let handled := engine.journaled.handle session text (world, journal)
    let expanded := engine.journaled.expand session text (world, journal)
    let executed := engine.journaled.execute session command (world, journal)
    let recorded := engine.journaled.record session command (world, journal)
    let kept (command : String) (world : World) := engine.backend.append session command world
    let ran (command : String) (world : World) :=
      engine.backend.run session command (kept command world).2
    let fetched := engine.backend.fetch session world
    (Message.expansion? engine.trigger text = none →
      handled = (.ok .passThrough, (world, journal)) ∧
        expanded = (.ok none, (world, journal))) ∧
    (∀ asked, Message.expansion? engine.trigger text = some asked →
      (∀ failure, fetched.1 = .error failure →
        handled = (.error failure, (fetched.2, journal ++ [.fetch session])) ∧
          expanded = (.error failure, (fetched.2, journal ++ [.fetch session]))) ∧
      ∀ record, fetched.1 = .ok record →
        (∀ failure, resolve session record asked.expression = .error failure →
          handled = (.error failure, (fetched.2, journal ++ [.fetch session])) ∧
            expanded = (.error failure, (fetched.2, journal ++ [.fetch session]))) ∧
        ∀ found, resolve session record asked.expression = .ok found →
          expanded = (.ok (some found), (fetched.2, journal ++ [.fetch session])) ∧
          (asked.printOnly = true →
            handled = (.ok (.printed found), (fetched.2, journal ++ [.fetch session]))) ∧
          (asked.printOnly = false →
            handled =
              ((ran found fetched.2).1.map (.executed found), ((ran found fetched.2).2,
                journal ++ [.fetch session, .append session found, .run session found])) ∧
            ∀ {Part : Type} (part : World → Part),
              (∀ session command world,
                part (engine.backend.run session command world).2 = part world) →
              part handled.2.1 = part (kept found fetched.2).2)) ∧
    executed =
      ((ran command world).1, ((ran command world).2,
        journal ++ [.append session command, .run session command])) ∧
    recorded =
      ((kept command world).1, ((kept command world).2, journal ++ [.append session command])) := by
  intro handled expanded executed recorded kept ran fetched
  refine ⟨fun hnone => ?_, fun asked hasked => ?_, ?_, rfl⟩
  · have hresolved : engine.journaled.resolveMessage session text (world, journal) = _ :=
      engine.journaled.resolveMessage_of_none hnone (world, journal)
    exact ⟨engine.journaled.handle_of_none hresolved,
      engine.journaled.expand_of_resolved hresolved⟩
  · have hresolved : engine.journaled.resolveMessage session text (world, journal) = _ :=
      engine.resolveMessage_journaled hasked world journal
    refine ⟨fun failure hfetch => ?_, fun record hfetch => ⟨fun failure hfailure => ?_,
      fun found hfound => ?_⟩⟩
    · simp only [show (engine.backend.fetch session world).1 = _ from hfetch, Except.bind,
        Except.map] at hresolved
      exact ⟨engine.journaled.handle_of_error hresolved,
        engine.journaled.expand_of_resolved hresolved⟩
    · simp only [show (engine.backend.fetch session world).1 = _ from hfetch, Except.bind,
        hfailure, Except.map] at hresolved
      exact ⟨engine.journaled.handle_of_error hresolved,
        engine.journaled.expand_of_resolved hresolved⟩
    · simp only [show (engine.backend.fetch session world).1 = _ from hfetch, Except.bind,
        hfound, Except.map] at hresolved
      have hhandled := engine.journaled.handle_of_some hresolved
      refine ⟨engine.journaled.expand_of_resolved hresolved, fun hprint => ?_, fun hrun => ?_⟩
      · rw [hprint] at hhandled
        exact hhandled
      · rw [hrun, dispatch_run, execute_journaled, List.append_assoc] at hhandled
        refine ⟨hhandled, fun part hpart => ?_⟩
        show part (engine.journaled.handle session text (world, journal)).2.1 = _
        rw [hhandled]
        exact hpart session found _
  · exact engine.execute_journaled session command world journal

/-- Appends are refused and the command fails; in a second session the record cannot be fetched. -/
theorem services_relayed_refused :
    let engine : Engine (Archive × Refusals) :=
      ⟨"!", (Backend.inMemory fun _ command => .error (.execution command)).refusing⟩
    let archive := (Archive.empty 5).push "s" "ls"
    let full : Archive × Refusals := (archive, ⟨none, some (.storage "full")⟩)
    let busy : Archive × Refusals := (archive, ⟨some (.storage "busy"), none⟩)
    Message.expansion? "!" " !! " = some ⟨.last, false⟩ ∧
      resolve "s" (archive.get? "s") .last = .ok "ls" ∧
      engine.journaled.handle "s" " !! " (full, []) =
        (.error (.execution "ls"),
          (full, [.fetch "s", .append "s" "ls", .run "s" "ls"])) ∧
      engine.journaled.handle "s" " !! " (busy, []) =
        (.error (.storage "busy"), (busy, [.fetch "s"])) := by
  intro engine archive full busy
  have hasked : Message.expansion? "!" " !! " = some ⟨.last, false⟩ := by decide +kernel
  have hfound : resolve "s" (archive.get? "s") .last = .ok "ls" := by rfl
  refine ⟨hasked, hfound, ?_, ?_⟩
  · obtain ⟨-, hlooked, -⟩ := engine.services_relayed "s" " !! " "" full []
    obtain ⟨-, hrecord⟩ := hlooked _ hasked
    obtain ⟨-, hresolved⟩ := hrecord (archive.get? "s") rfl
    exact ((hresolved "ls" hfound).2.2 rfl).1
  · obtain ⟨-, hlooked, -⟩ := engine.services_relayed "s" " !! " "" busy []
    exact ((hlooked _ hasked).1 (.storage "busy") rfl).1

end Engine

end HistoryExpansion
