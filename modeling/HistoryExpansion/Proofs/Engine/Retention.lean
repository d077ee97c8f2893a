import HistoryExpansion.Proofs.Engine.Relay
import HistoryExpansion.Proofs.Engine.Replay
import HistoryExpansion.Proofs.Lookup

/-!
# How long a command can be referred to

The requests of a run say which commands were handed over to be kept for a session
(`Backend.appended`). A session's record holds the newest of them, as many as the window allows:
this is `Archive.Retains`, which every step keeps (`retains_step`), of whichever session it is. So a
command is found by counting back over the commands that were handed over after it, as long as they
are fewer than the window, and not any more from then on: `expand_back_appended`.
-/

namespace HistoryExpansion

open Backend (Call)

/-! ## Commands handed over -/

namespace Backend

/-- The commands that were handed over to be kept for a session, in order. -/
def appended (session : String) (calls : List Call) : List String :=
  calls.filterMap fun
    | .append other command => if other = session then some command else none
    | _ => none

theorem appended_append (session : String) (calls more : List Call) :
    appended session (calls ++ more) = appended session calls ++ appended session more :=
  List.filterMap_append

end Backend

namespace Task

variable {session : String}

theorem appended_calls_own (task : Task) :
    Backend.appended session (task.calls session) = task.command?.toList := by
  have hown (command : String) : Backend.appended session [.append session command] = [command] :=
    List.filterMap_cons_some (if_pos rfl)
  cases task with
  | reply answer => rfl
  | keep command => exact hown command
  | perform command wrap => exact hown command

theorem appended_calls_of_ne {other : String} (h : other ≠ session) (task : Task) :
    Backend.appended session (task.calls other) = [] := by
  have hother (command : String) : Backend.appended session [.append other command] = [] :=
    List.filterMap_cons_none (if_neg h)
  cases task with
  | reply answer => rfl
  | keep command => exact hother command
  | perform command wrap => exact hother command

theorem command?_of_append_mem {task : Task} {command : String}
    (h : .append session command ∈ task.calls session) : task.command? = some command := by
  cases task with
  | reply answer => cases h
  | keep kept =>
    cases List.mem_singleton.1 h
    rfl
  | perform kept wrap =>
    rcases List.mem_cons.1 h with heq | hrun
    · cases heq
      rfl
    · cases List.mem_singleton.1 hrun

end Task

/-! ## What a record retains -/

namespace Archive

/-- A session's record is what the window leaves of the given commands. -/
def Retains (archive : Archive) (session : String) (commands : List String) : Prop :=
  ∃ record, archive.get? session = some record ∧
    record.commands = newest archive.window commands

/-- Whatever was retained before a command was pushed, it is the newest one. -/
theorem retains_push (archive : Archive) (session command : String) :
    ∃ front, (archive.push session command).Retains session (front ++ [command]) :=
  ⟨_, _, archive.get?_push_self session command, rfl⟩

namespace Retains

variable {archive : Archive} {session command : String} {commands front later : List String}

theorem push_self (h : archive.Retains session commands) (command : String) :
    (archive.push session command).Retains session (commands ++ [command]) := by
  obtain ⟨record, hrecord, hcommands⟩ := h
  refine ⟨record.push archive.window command, ?_, ?_⟩
  · rw [get?_push_self, hrecord, Option.getD_some]
  · show newest archive.window (record.commands ++ [command]) = _
    rw [hcommands]
    exact newest_newest_append _ _ _

theorem push_of_ne {other : String} (hne : other ≠ session)
    (h : archive.Retains session commands) (command : String) :
    (archive.push other command).Retains session commands := by
  obtain ⟨record, hrecord, hcommands⟩ := h
  exact ⟨record, (get?_push_of_ne hne command).trans hrecord, hcommands⟩

/-- A command is found by how far back it was handed over while the window has room for it. -/
theorem resolve_back (h : archive.Retains session (front ++ command :: later))
    (hlater : later.length < archive.window) (hlength : archive.length session < 2 ^ 63) :
    resolve session (archive.get? session)
        (.index (Int64.ofIntClamp (-(later.length + 1 : Nat)))) = .ok command := by
  obtain ⟨record, hrecord, hcommands⟩ := h
  have hshort : record.commands.length < 2 ^ 63 := by
    rwa [Archive.length, hrecord] at hlength
  have hlong : later.length + 1 ≤ record.commands.length := by
    rw [hcommands, length_newest, List.length_append, List.length_cons]
    omega
  have hfound := @newest_getElem?_back _ _ front later command hlater
  rw [← hcommands] at hfound
  rw [hrecord]
  refine resolveIn_index_of_countsTo hshort ?_ hfound
  rw [toInt_ofIntClamp_eq]
  unfold CountsTo
  omega

/-- What was handed over farther back than the window reaches is not found. -/
theorem resolve_beyond (h : archive.Retains session commands) {back : Nat}
    (hback : archive.window < back) :
    resolve session (archive.get? session) (.index (Int64.ofIntClamp (-back))) =
      .error (.invalidIndex (Int64.ofIntClamp (-back))) := by
  obtain ⟨record, hrecord, hcommands⟩ := h
  have hshort : record.commands.length ≤ archive.window := by
    rw [hcommands]
    exact length_newest_le _ _
  rw [hrecord]
  apply resolveIn_index_of_none
  intro hlength position hcounts
  rw [toInt_ofIntClamp_eq] at hcounts
  unfold CountsTo at hcounts
  omega

/-- The command that was handed over last is the last one of the record. -/
theorem resolve_last (h : archive.Retains session (front ++ [command]))
    (hwindow : archive.window ≠ 0) :
    resolve session (archive.get? session) .last = .ok command := by
  obtain ⟨record, hrecord, hcommands⟩ := h
  obtain ⟨window, hsucc⟩ := Nat.exists_eq_succ_of_ne_zero hwindow
  have hlast : record.commands.getLast? = some command := by
    rw [hcommands, hsucc, newest_succ_concat, List.getLast?_concat]
  rw [hrecord, resolve, resolveIn, hlast, Option.elim_some]

end Retains

end Archive

namespace Engine

variable {World : Type} {engine : Engine World} {archive : World → Archive}
  {world : World} {journal : List Call} {session : String}

/-! ## Single steps -/

theorem appended_lookups (session : String) (step : Step) :
    Backend.appended session (engine.lookups step) = [] := by
  unfold lookups
  split <;> rfl

/-- What a step hands over is the command of its task. -/
theorem command?_of_append_mem {step : Step} {command : String}
    (h : .append step.session command ∈ (engine.journaled.step step (world, [])).2.2) :
    (engine.taskIn step world).command? = some command := by
  rw [step_journaled, List.nil_append, List.mem_append] at h
  rcases h with hlookup | hcalled
  · unfold lookups at hlookup
    split at hlookup
    · cases List.mem_singleton.1 hlookup
    · cases hlookup
  · exact Task.command?_of_append_mem hcalled

section

variable (hserves : engine.backend.Serves archive)

include hserves

/-- What a text refers to is found in the session's record. -/
theorem expand_of_expansion {text : String} {asked : Message}
    (h : Message.expansion? engine.trigger text = some asked) (session : String) (world : World) :
    (engine.expand session text world).1 =
      (resolve session ((archive world).get? session) asked.expression).map some := by
  rw [engine.expand_of_resolved (engine.resolveMessage_of_some h world), hserves.fetch,
    Except.bind]
  cases resolve session ((archive world).get? session) asked.expression <;> rfl

/-- **Every step keeps what a record retains**, with what the step itself hands over. -/
theorem retains_step {front : List String}
    (h : (archive world).Retains session (front ++ Backend.appended session journal))
    (step : Step) :
    let after := (engine.journaled.step step (world, journal)).2
    (archive after.1).Retains session (front ++ Backend.appended session after.2) := by
  intro after
  have hafter : after = _ := congrArg Prod.snd (engine.step_journaled step world journal)
  rw [hafter, archive_step hserves, ← taskIn_of_serves hserves, Backend.appended_append,
    Backend.appended_append, appended_lookups, List.append_nil]
  by_cases hown : step.session = session
  · subst hown
    rw [Task.appended_calls_own]
    cases (engine.taskIn step world).command? with
    | none => rwa [Option.toList_none, List.append_nil]
    | some command =>
      rw [Option.toList_some, ← List.append_assoc]
      exact h.push_self command
  · rw [Task.appended_calls_of_ne hown, List.append_nil]
    cases (engine.taskIn step world).command? with
    | none => exact h
    | some command => exact h.push_of_ne hown command

/-- Runs keep what a record retains. -/
theorem retains_run {front : List String}
    (h : (archive world).Retains session (front ++ Backend.appended session journal))
    (steps : List Step) :
    let after := (engine.journaled.run steps (world, journal)).2
    (archive after.1).Retains session (front ++ Backend.appended session after.2) := by
  induction steps generalizing world journal with
  | nil => exact h
  | cons step steps ih =>
    rw [run_cons]
    exact ih (retains_step hserves h step)

/-- A command that a step hands over is retained with all that is handed over after it. -/
theorem retains_of_append {step : Step} {command : String}
    (h : .append step.session command ∈ (engine.journaled.step step (world, [])).2.2)
    (steps : List Step) :
    let after := (engine.journaled.run steps ((engine.step step world).2, [])).2
    ∃ front, (archive after.1).Retains step.session
      (front ++ command :: Backend.appended step.session after.2) := by
  obtain ⟨front, hfront⟩ := Archive.retains_push (archive world) step.session command
  have hleft : (archive (engine.step step world).2).Retains step.session
      (front ++ [command] ++ Backend.appended step.session []) := by
    rw [archive_step hserves, ← taskIn_of_serves hserves, command?_of_append_mem h]
    show Archive.Retains _ _ (_ ++ [])
    rwa [List.append_nil]
  refine ⟨front, ?_⟩
  rw [List.append_cons]
  exact retains_run hserves hleft steps

end

/-- **A command can be referred to for one window.** A step hands a command over to be kept, and
whatever steps follow, some number of further commands are handed over for the same session.
Counting back over these finds the command as long as they are fewer than the window, if signed
words can count the record; from then on the index is invalid. With no further command, the command
is the last one. Nothing is asked of the other steps or of how running the command ended, and the
state before is any that an engine over an archive has reached under a valid configuration. -/
theorem expand_back_appended (hserves : engine.backend.Serves archive) {config : Config}
    (hconfig : config.validate = .ok ()) (htrigger : engine.trigger = config.trigger)
    {start : World} (hstart : (archive start).window = config.window.toNat) (past : List Step)
    {step : Step} {command : String}
    (hstep : .append step.session command ∈
      (engine.journaled.step step ((engine.run past start).2, [])).2.2)
    (steps : List Step) :
    let left := (engine.step step (engine.run past start).2).2
    let after := (engine.journaled.run steps (left, [])).2
    let further := (Backend.appended step.session after.2).length
    let expanded (body : String) :=
      (engine.expand step.session (config.trigger ++ body) after.1).1
    (further < config.window.toNat → (archive after.1).length step.session < 2 ^ 63 →
      expanded ("-" ++ toString (further + 1)) = .ok (some command)) ∧
    (config.window.toNat ≤ further →
      expanded ("-" ++ toString (further + 1)) =
        .error (.invalidIndex (Int64.ofIntClamp (-(further + 1 : Nat))))) ∧
    (further = 0 → expanded "!" = .ok (some command)) := by
  intro left after further expanded
  have hvalid := Config.validate_eq_ok_iff.1 hconfig
  have hwindow : (archive after.1).window = config.window.toNat := by
    rw [run_journaled, window_run hserves, window_step hserves, window_run hserves, hstart]
  obtain ⟨front, hretains⟩ := retains_of_append hserves hstep steps
  have hback : Message.expansion? engine.trigger
      (config.trigger ++ ("-" ++ toString (further + 1))) =
        some ⟨.index (Int64.ofIntClamp (-(further + 1 : Nat))), false⟩ := by
    rw [htrigger, ← String.append_assoc]
    exact Message.expansion?_back hvalid _
  refine ⟨fun hwithin hlength => ?_, fun hbeyond => ?_, fun hnone => ?_⟩
  · show (engine.expand _ _ _).1 = _
    rw [expand_of_expansion hserves hback,
      hretains.resolve_back (hwindow ▸ hwithin) hlength]
    rfl
  · show (engine.expand _ _ _).1 = _
    rw [expand_of_expansion hserves hback,
      hretains.resolve_beyond (hwindow ▸ Nat.lt_succ_of_le hbeyond)]
    rfl
  · have hlast : Message.expansion? engine.trigger (config.trigger ++ "!") =
        some ⟨.last, false⟩ := by
      rw [htrigger]
      exact Message.expansion?_of_writes hvalid .last nofun
    show (engine.expand _ _ _).1 = _
    rw [List.eq_nil_of_length_eq_zero hnone] at hretains
    rw [expand_of_expansion hserves hlast, hretains.resolve_last ?_]
    · rfl
    · rw [hwindow]
      exact fun hzero => hvalid.window (UInt64.toNat_inj.1 hzero)

/-- An executed message whose command fails; then other sessions, messages that print, fail or are
passed through, and up to two further commands. -/
theorem expand_back_appended_failed :
    let config : Config := { window := 2, trigger := "-!" }
    let engine := inMemory "-!" fun _ command =>
      if command = "make" then .error (.execution "offline") else .ok ⟨command, "", 0⟩
    let past : List Step := [.record "s" "make", .execute "s" "cd"]
    let step : Step := .message "s" "-!ma"
    let steps : List Step := [.record "t" "id", .message "t" "-!!", .message "s" "-!-1:p",
      .message "s" "-!9", .message "s" "hello", .message "s" "-!cd"]
    let before := (engine.run past (Archive.empty 2)).2
    let left := (engine.step step before).2
    let after (steps : List Step) := (engine.journaled.run steps (left, [])).2
    config.validate = .ok () ∧
      (engine.step step before).1 = .error (.execution "offline") ∧
      .append "s" "make" ∈ (engine.journaled.step step (before, [])).2.2 ∧
      (engine.expand "s" "-!!" left).1 = .ok (some "make") ∧
      Backend.appended "s" (after steps).2 = ["cd"] ∧
      (engine.expand "s" "-!-2" (after steps).1).1 = .ok (some "make") ∧
      Backend.appended "s" (after (steps ++ [.record "s" "ls"])).2 = ["cd", "ls"] ∧
      (engine.expand "s" "-!-3" (after (steps ++ [.record "s" "ls"])).1).1 =
        .error (.invalidIndex (-3)) := by
  intro config engine past step steps before left after
  have hserves : engine.backend.Serves id := Backend.serves_inMemory _
  have hdefect : config.defect? = none := by decide +kernel
  have hconfig : config.validate = .ok () := by rw [Config.validate, hdefect]
  have hstep : .append "s" "make" ∈ (engine.journaled.step step (before, [])).2.2 := by
    decide +kernel
  have hone : Backend.appended "s" (after steps).2 = ["cd"] := by decide +kernel
  have htwo : Backend.appended "s" (after (steps ++ [.record "s" "ls"])).2 = ["cd", "ls"] := by
    decide +kernel
  have hfails : (engine.step step before).1 = .error (.execution "offline") := by decide +kernel
  refine ⟨hconfig, hfails, hstep, ?_, hone, ?_, htwo, ?_⟩
  · obtain ⟨-, -, hlast⟩ := expand_back_appended hserves hconfig rfl rfl past hstep []
    exact hlast rfl
  · obtain ⟨hback, -, -⟩ := expand_back_appended hserves hconfig rfl rfl past hstep steps
    have htext : "-!-2" =
        "-!" ++ ("-" ++ toString ((Backend.appended "s" (after steps).2).length + 1)) := by
      rw [hone]
      decide +kernel
    rw [htext]
    exact hback (by decide +kernel) (by decide +kernel)
  · obtain ⟨-, hbeyond, -⟩ := expand_back_appended hserves hconfig rfl rfl past hstep
      (steps ++ [.record "s" "ls"])
    have htext : "-!-3" = "-!" ++ ("-" ++ toString
        ((Backend.appended "s" (after (steps ++ [.record "s" "ls"])).2).length + 1)) := by
      rw [htwo]
      decide +kernel
    have hnumber : (-3 : Int64) = Int64.ofIntClamp (-((Backend.appended "s"
        (after (steps ++ [.record "s" "ls"])).2).length + 1 : Nat)) := by
      rw [htwo]
      decide +kernel
    rw [htext, hnumber]
    exact hbeyond (by decide +kernel)

end Engine

end HistoryExpansion
