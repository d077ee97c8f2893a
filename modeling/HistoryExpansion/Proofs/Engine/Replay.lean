import HistoryExpansion.Proofs.Engine.Records
import HistoryExpansion.Proofs.Engine.Sessions
import HistoryExpansion.Proofs.Position
import HistoryExpansion.Proofs.Message
import Mathlib.Data.List.Rotate

/-!
# Replaying the newest commands

A message that counts back by `back` runs the oldest of the newest `back` commands and thereby makes
it the newest one. So the newest `back` commands of the record are rotated by one place with every
such message, and are where they were after `back` of them: `run_replay`. It does not matter whether
the window drops other commands meanwhile, what the executor answers, and what other sessions do in
between.
-/

namespace HistoryExpansion

open Backend (Call)

/-! ## Counting back -/

/-- The trigger and a text that writes an expression refer to what the expression refers to. Only a
substring token could be taken for something else. -/
theorem Message.expansion?_of_writes {config : Config} (h : config.Valid) {body : String}
    {expression : Expression} (hwrites : Expression.Writes body.toList expression)
    (hother : ∀ token, expression ≠ .containing token) :
    Message.expansion? config.trigger (config.trigger ++ body) = some ⟨expression, false⟩ := by
  have htext : (config.trigger ++ body).toList =
      [] ++ (config.trigger.toList ++ body.toList ++ suffix false) ++ [] := by
    simp only [String.toList_append, List.nil_append, List.append_nil, suffix, Bool.false_eq_true,
      ↓reduceIte]
  have hnot : ¬printSuffix <:+ body.toList := by
    rw [suffix_of_writes hwrites]
    rintro ⟨token, htoken, -⟩
    exact hother token htoken
  have hread := (read?_of_writes h (fun _ hc => absurd hc List.not_mem_nil)
    (fun _ hc => absurd hc List.not_mem_nil) hwrites false htext).2 fun _ => hnot
  have hexpansion : expression.isExpansion = true := by
    have htypable := hwrites.isTypable
    cases expression with
    | plain => cases htypable
    | _ => rfl
  rw [Message.expansion?, hread, Option.filter_some, if_pos hexpansion]

/-- The trigger, a minus sign and digits refer to a command by how far back it stands. -/
theorem Message.expansion?_back {config : Config} (h : config.Valid) (back : Nat) :
    Message.expansion? config.trigger (config.trigger ++ "-" ++ toString back) =
      some ⟨.index (Int64.ofIntClamp (-back)), false⟩ := by
  have hdigits : (toString back).toList = Nat.toDigits 10 back := by
    rw [Nat.toString_eq_ofList_toDigits, String.toList_ofList]
  have hwrites : Expression.Writes ("-" ++ toString back).toList
      (.index (Int64.ofIntClamp (-back))) := by
    have hnumber := Expression.WritesNumber.negated (Expression.isDigits_toDigits back)
    rw [Nat.ofDigitChars_ten_toDigits] at hnumber
    rw [String.toList_append, hdigits]
    exact .index hnumber
  rw [String.append_assoc]
  exact expansion?_of_writes h hwrites nofun

/-- A message that counts back comes to running the command that it counts to. -/
theorem Step.task_back {config : Config} (h : config.Valid) {session : String} {record : Record}
    {back : Nat} (hpos : 0 < back) (hback : back ≤ record.length)
    (hlength : record.length < 2 ^ 63) {command : String}
    (hcommand : record.commands[record.commands.length - back]? = some command) :
    Step.task config.trigger (.ok (some record))
        (.message session (config.trigger ++ "-" ++ toString back)) =
      .perform command fun output => .outcome (.executed command output) := by
  have hnumber : (Int64.ofIntClamp (-back)).toInt = -back := by
    have hmin : Int64.minValue.toInt = -2 ^ 63 := by decide
    have hmax : Int64.maxValue.toInt = 2 ^ 63 - 1 := by decide
    exact Int64.toInt_ofIntClamp (by omega) (by omega)
  have hfound := commandAt?_neg hnumber hpos hback hlength
  rw [hcommand] at hfound
  have hresolved : resolve session (some record) (.index (Int64.ofIntClamp (-back))) =
      .ok command := by
    rw [resolve, resolveIn, hfound]
    rfl
  rw [Step.task, Step.resolved?, Message.expansion?_back h]
  simp only [Except.bind, hresolved, Except.map]
  rfl

namespace Engine

/-! ## Single steps -/

section

variable {World : Type} {engine : Engine World} {archive : World → Archive}
  {world world' : World} {journal journal' : List Call}

/-- A step under a journal, taken apart into the step and what it adds to the commands run. -/
theorem step_and_ran {step : Step}
    (h : (engine.journaled.step step (world, journal)).2 = (world', journal')) :
    world' = (engine.step step world).2 ∧
      Backend.ran journal' =
        Backend.ran journal ++ (engine.taskIn step world).ran step.session := by
  have hran := engine.ran_step_journaled step world journal
  rw [h] at hran
  rw [engine.step_journaled] at h
  exact ⟨(congrArg Prod.fst h).symm, hran⟩

variable (hserves : engine.backend.Serves archive)

include hserves

/-- A message that counts back rotates the newest commands by one place. -/
theorem step_back {config : Config} (hconfig : config.Valid)
    (htrigger : engine.trigger = config.trigger) {session : String} {record : Record}
    (hrecord : (archive world).get? session = some record) {back : Nat} (hpos : 0 < back)
    (hback : back ≤ record.length) (hwindow : back ≤ (archive world).window)
    (hlength : record.length < 2 ^ 63)
    (h : (engine.journaled.step (.message session (config.trigger ++ "-" ++ toString back))
      (world, journal)).2 = (world', journal')) :
    ∃ command others, newest back record.commands = command :: others ∧
      ranFor session journal' = ranFor session journal ++ [(session, command)] ∧
      ∃ later, (archive world').get? session = some later ∧ back ≤ later.length ∧
        later.length ≤ record.length + 1 ∧ newest back later.commands = others ++ [command] := by
  obtain ⟨command, others, hnewest, hcommand⟩ := newest_eq_cons hpos hback
  have htask : Step.task engine.trigger (.ok ((archive world).get? session))
      (.message session (config.trigger ++ "-" ++ toString back)) =
        .perform command fun output => .outcome (.executed command output) := by
    rw [hrecord, htrigger]
    exact Step.task_back hconfig hpos hback hlength hcommand
  obtain ⟨rfl, hran⟩ := step_and_ran h
  refine ⟨command, others, hnewest, ?_, record.push (archive world).window command, ?_, ?_, ?_, ?_⟩
  · rw [ranFor, hran, List.filter_append, taskIn_of_serves hserves, Step.session, filter_ran_own,
      htask]
    rfl
  · rw [archive_step hserves, Step.session, htask]
    show ((archive world).push session command).get? session = _
    rw [Archive.get?_push_self, hrecord]
    rfl
  · show back ≤ (newest _ (record.commands ++ [command])).length
    rw [length_newest, List.length_append, List.length_singleton]
    exact Nat.le_min.2 ⟨hwindow, Nat.le_succ_of_le hback⟩
  · show (newest _ (record.commands ++ [command])).length ≤ _
    rw [length_newest, List.length_append, List.length_singleton]
    exact Nat.min_le_right _ _
  · show newest back (newest _ (record.commands ++ [command])) = _
    rw [newest_newest hwindow, newest_concat hpos hback, hnewest]
    rfl

/-- A step of another session leaves the session's record and calls alone. -/
theorem step_beside {session : String} {step : Step} (hne : step.session ≠ session)
    (h : (engine.journaled.step step (world, journal)).2 = (world', journal')) :
    ranFor session journal' = ranFor session journal ∧
      (archive world').get? session = (archive world).get? session := by
  obtain ⟨rfl, hran⟩ := step_and_ran h
  constructor
  · rw [ranFor, hran, List.filter_append, filter_ran_other hne, List.append_nil]
    rfl
  · rw [archive_step hserves]
    exact Archive.get?_elim_push_of_ne hne _

/-! ## Runs -/

/-- Every message that counts back rotates the newest commands, whatever happens in between. -/
theorem run_back {config : Config} (hconfig : config.Valid)
    (htrigger : engine.trigger = config.trigger) {session : String} {back : Nat}
    (hpos : 0 < back) {steps : List Step} {times : Nat} (htimes : times ≤ back)
    (hsteps : steps.filter (·.session == session) =
      List.replicate times (.message session (config.trigger ++ "-" ++ toString back)))
    {record : Record} (hrecord : (archive world).get? session = some record)
    (hback : back ≤ record.length) (hwindow : back ≤ (archive world).window)
    (hlength : record.length + times ≤ 2 ^ 63) :
    ranFor session (engine.journaled.run steps (world, journal)).2.2 = ranFor session journal ++
        ((newest back record.commands).take times).map (session, ·) ∧
      ∃ later,
        (archive (engine.journaled.run steps (world, journal)).2.1).get? session = some later ∧
          newest back later.commands = (newest back record.commands).rotate times := by
  induction steps generalizing times world record journal with
  | nil =>
    obtain rfl : 0 = times := by simpa using congrArg List.length hsteps
    refine ⟨?_, record, hrecord, (List.rotate_zero _).symm⟩
    rw [List.take_zero, List.map_nil, List.append_nil]
    rfl
  | cons step steps ih =>
    obtain ⟨⟨world', journal'⟩, hnext⟩ :
        ∃ next, (engine.journaled.step step (world, journal)).2 = next := ⟨_, rfl⟩
    have hwindow' : back ≤ (archive world').window := by
      rw [(step_and_ran hnext).1, window_step hserves]
      exact hwindow
    rw [run_cons, hnext]
    by_cases hs : step.session = session
    · -- The session's own step is the next of the messages.
      rw [List.filter_cons_of_pos (by simpa using hs)] at hsteps
      cases times with
      | zero => exact absurd hsteps (List.cons_ne_nil _ _)
      | succ times =>
        obtain ⟨rfl, hrest⟩ := List.cons.inj hsteps
        obtain ⟨command, others, hnewest, hran, later, hlater, hlong, hshort, hrotated⟩ :=
          step_back hserves hconfig htrigger hrecord hpos hback hwindow (by omega) hnext
        obtain ⟨hranLater, last, hlast, hend⟩ :=
          ih (by omega) hrest hlater hlong hwindow' (by omega)
        have hothers : (command :: others).length = back := by
          rw [← hnewest, length_newest]
          exact Nat.min_eq_left hback
        rw [List.length_cons] at hothers
        refine ⟨?_, last, hlast, ?_⟩
        · rw [hranLater, hran, hrotated, List.take_append_of_le_length (by omega), hnewest,
            List.take_succ_cons, List.map_cons, List.append_assoc]
          rfl
        · rw [hend, hrotated, hnewest, List.rotate_cons_succ]
    · rw [List.filter_cons_of_neg (by simpa using hs)] at hsteps
      obtain ⟨hran, hsame⟩ := step_beside hserves hs hnext
      rw [← hran]
      exact ih htimes hsteps (hsame.trans hrecord) hback hwindow' hlength

end

/-- **Counting back by `back` as many times replays the newest `back` commands**: they are run in
their order, and afterwards they are the newest commands again. This is so in every state that an
engine over an archive has reached, under every valid configuration, and whatever other sessions do
in between, as long as signed words can count the commands that the record may come to hold. -/
theorem run_replay {World : Type} {engine : Engine World} {archive : World → Archive}
    (hserves : engine.backend.Serves archive) {config : Config} (hconfig : config.validate = .ok ())
    (htrigger : engine.trigger = config.trigger) {start : World}
    (hstart : archive start = Archive.empty config.window.toNat) (past : List Step)
    {session : String} {record : Record}
    (hrecord : (archive (engine.run past start).2).get? session = some record) {back : Nat}
    (hpos : 0 < back) (hback : back ≤ record.length) (hlength : record.length + back ≤ 2 ^ 63)
    {steps : List Step}
    (hsteps : steps.filter (·.session == session) =
      List.replicate back (.message session (config.trigger ++ "-" ++ toString back))) :
    let after := (engine.journaled.run steps ((engine.run past start).2, [])).2
    ranFor session after.2 = (newest back record.commands).map (session, ·) ∧
      ∃ later, (archive after.1).get? session = some later ∧
        newest back later.commands = newest back record.commands := by
  intro after
  have hbounded : (archive (engine.run past start).2).Bounded := by
    refine bounded_run hserves past ?_
    rw [hstart]
    exact Archive.Bounded.empty _
  have hwindow : back ≤ (archive (engine.run past start).2).window :=
    Nat.le_trans hback (hbounded record (List.mem_of_find?_eq_some hrecord))
  have hnewest : (newest back record.commands).length = back := by
    rw [length_newest]
    exact Nat.min_eq_left hback
  obtain ⟨hran, later, hlater, hend⟩ := run_back hserves (Config.validate_eq_ok_iff.1 hconfig)
    htrigger hpos (Nat.le_refl back) hsteps hrecord hback hwindow hlength
  have hturned : (newest back record.commands).rotate back = newest back record.commands :=
    (congrArg (List.rotate _) hnewest.symm).trans (List.rotate_length _)
  rw [List.take_of_length_le (Nat.le_of_eq hnewest)] at hran
  exact ⟨hran, later, hlater, hend.trans hturned⟩

/-- A full window, a command that cannot be run, and another session in between. -/
theorem run_replay_full :
    let config : Config := { window := 3, trigger := "-!" }
    let engine := inMemory "-!" fun _ command =>
      if command = "make" then .error (.execution "offline") else .ok ⟨command, "", 0⟩
    let past : List Step := [.record "s" "old", .record "s" "cd", .execute "s" "make",
      .record "t" "id", .record "s" "ls"]
    let steps : List Step := [.message "s" "-!-3", .message "t" "-!!", .message "s" "-!-3",
      .record "t" "w", .message "s" "-!-3"]
    let after := (engine.journaled.run steps ((engine.run past (Archive.empty 3)).2, [])).2
    config.validate = .ok () ∧
      (engine.run past (Archive.empty 3)).2.get? "s" = some ⟨"s", ["cd", "make", "ls"]⟩ ∧
      steps.filter (·.session == "s") =
        List.replicate 3 (.message "s" ("-!" ++ "-" ++ toString 3)) ∧
      ranFor "s" after.2 = [("s", "cd"), ("s", "make"), ("s", "ls")] ∧
      ∃ later, after.1.get? "s" = some later ∧ newest 3 later.commands = ["cd", "make", "ls"] := by
  intro config engine past steps after
  have hserves : engine.backend.Serves id := Backend.serves_inMemory _
  have hdefect : config.defect? = none := by decide +kernel
  have hconfig : config.validate = .ok () := by rw [Config.validate, hdefect]
  have hrecord : (engine.run past (Archive.empty 3)).2.get? "s" =
      some ⟨"s", ["cd", "make", "ls"]⟩ := by decide +kernel
  have hsteps : steps.filter (·.session == "s") =
      List.replicate 3 (.message "s" ("-!" ++ "-" ++ toString 3)) := by decide +kernel
  obtain ⟨hran, later, hlater, hend⟩ := run_replay hserves hconfig rfl rfl past hrecord
    (by decide) (by decide) (by decide) hsteps
  exact ⟨hconfig, hrecord, hsteps, hran, later, hlater, hend⟩

end Engine

end HistoryExpansion
