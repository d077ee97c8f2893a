import HistoryExpansion.CommandLine.Program
import HistoryExpansion.Proofs.Archive.Windows
import HistoryExpansion.Proofs.Engine.Records
import HistoryExpansion.Proofs.HistoryFile.Opening

/-!
# Expanding and listing only read

A run of the program that expands a text or lists the history is an answer to a question
(`Invocation.answer`): it is read off the configuration and the record of one session, and nothing
of what surrounds the program has a part in it but the names of the user's directories
(`invoke_eq`). So no such run changes the disk or runs a command, whether it succeeds or fails, and
what it does can be done again with the same result: `run_readOnly`. That a window cuts the records
of a history file is seen in the answer alone; the file keeps them.
-/

namespace HistoryExpansion

open Backend (Call)

/-! ## Questions to an engine -/

/-- Whether a step only asks for something. -/
def Step.isQuestion : Step → Bool
  | .expand .. | .history _ => true
  | .message .. | .execute .. | .record .. | .dispatch .. => false

/-- All that a question comes to is a reply. -/
theorem Step.exists_reply_of_isQuestion {step : Step} (h : step.isQuestion = true)
    (trigger : String) (fetched : Except Failure (Option Record)) :
    ∃ answer, step.task trigger fetched = .reply answer := by
  cases step with
  | expand session text => exact ⟨_, rfl⟩
  | history session => exact ⟨_, rfl⟩
  | message session text => cases h
  | execute session command => cases h
  | record session command => cases h
  | dispatch session command printOnly => cases h

namespace Engine

variable {World : Type} {engine : Engine World} {archive : World → Archive}

/-- **A question** leaves the world alone, and all that it asks the services for is a record. -/
theorem step_question (hserves : engine.backend.Serves archive) {step : Step}
    (h : step.isQuestion = true) (world : World) :
    ∃ calls, (engine.journaled.step step (world, [])).2 = (world, calls) ∧
      ∀ call ∈ calls, call = .fetch step.session := by
  obtain ⟨answer, htask⟩ := step.exists_reply_of_isQuestion h engine.trigger
    (engine.backend.fetch step.session world).1
  have hfetch : (engine.backend.fetch step.session world).2 = world := by rw [hserves.fetch]
  refine ⟨engine.lookups step, ?_, fun call hcall => ?_⟩
  · rw [step_journaled, step_of_fetch _ hfetch, taskIn, htask, List.nil_append]
    exact congrArg (Prod.mk world) (List.append_nil _)
  · unfold lookups at hcall
    split at hcall
    · exact List.mem_singleton.1 hcall
    · exact absurd hcall List.not_mem_nil

end Engine

namespace CommandLine

/-! ## Answers of the program -/

/-- The question to the engine that an invocation comes to; the loop is none. -/
def Invocation.question? (invocation : Invocation) : Option Step :=
  match invocation.command with
  | .loop => none
  | .expand text _ => some (.expand invocation.session text)
  | .list _ _ => some (.history invocation.session)

/-- The answer to an invocation that asks, given the record of its session. -/
def Invocation.answer (invocation : Invocation) (config : Config) (record : Option Record) :
    Except Failure String :=
  match invocation.command with
  | .loop => .ok ""
  | .expand text _ =>
    (Step.resolved? config.trigger invocation.session text (.ok record)).map fun found =>
      (found.map Prod.fst).getD text ++ "\n"
  | .list limit _ => .ok (Listing.render invocation.session limit.toNat record)

/-- The end of a run that answers. -/
def Ending.ofAnswer (disk : Disk) : Except Failure String → Ending
  | .error failure => .ofReport disk (.ofFailure failure)
  | .ok text => .ofOutput disk text

theorem Ending.disk_ofAnswer (disk : Disk) (answer : Except Failure String) :
    (ofAnswer disk answer).disk = disk := by
  cases answer <;> rfl

variable (surroundings : Surroundings) (config : Config) (disk : Disk)

theorem serves_engine :
    (engine surroundings config).backend.Serves fun workspace => workspace.store.archive :=
  Backend.serves_workspace _

theorem runExpand_eq (session text : String) (path : Option String) :
    runExpand surroundings config session text path disk =
      match openStore config path disk with
      | .error failure => .ofReport disk (.ofFailure failure)
      | .ok store =>
        .ofAnswer disk ((Step.resolved? config.trigger session text
          (.ok (store.archive.get? session))).map fun found =>
            (found.map Prod.fst).getD text ++ "\n") := by
  unfold runExpand
  cases openStore config path disk with
  | error failure => rfl
  | ok store =>
    simp only [Engine.expand, Engine.resolveMessage_of_serves (serves_engine surroundings config)]
    show _ = Ending.ofAnswer disk ((Step.resolved? (engine surroundings config).trigger session text
      (.ok (store.archive.get? session))).map _)
    cases Step.resolved? (engine surroundings config).trigger session text
      (.ok (store.archive.get? session)) <;> rfl

theorem runList_eq (session : String) (limit : UInt64) (path : Option String) :
    runList surroundings config session limit path disk =
      match openStore config path disk with
      | .error failure => .ofReport disk (.ofFailure failure)
      | .ok store =>
        .ofAnswer disk
          (.ok (Listing.render session limit.toNat (store.archive.get? session))) := by
  unfold runList
  cases openStore config path disk <;> rfl

variable {disk} {invocation : Invocation}

/-- **An invocation that asks is answered** from the configuration and the record of its session; of
what surrounds the program only the user's directories count. -/
theorem invoke_eq (hasks : invocation.command ≠ .loop) :
    invoke surroundings invocation disk =
      match loadConfig surroundings.environment invocation disk with
      | .error report => .ofReport disk report
      | .ok config =>
        match openStore config invocation.historyPath disk with
        | .error failure => .ofReport disk (.ofFailure failure)
        | .ok store =>
          .ofAnswer disk
            (invocation.answer config (store.archive.get? invocation.session)) := by
  obtain ⟨configPath, session, command⟩ := invocation
  unfold invoke
  cases loadConfig surroundings.environment ⟨configPath, session, command⟩ disk with
  | error report => rfl
  | ok config =>
    cases command with
    | loop => exact absurd rfl hasks
    | expand text path => exact runExpand_eq surroundings config disk session text path
    | list limit path => exact runList_eq surroundings config disk session limit path

theorem disk_invoke (hasks : invocation.command ≠ .loop) :
    (invoke surroundings invocation disk).disk = disk := by
  rw [invoke_eq surroundings hasks]
  split
  · rfl
  · split
    · rfl
    · exact Ending.disk_ofAnswer disk _

/-! ## The store behind an answer -/

/-- A store that is opened in a file has the records of the file, each cut to the window. -/
theorem get?_openStore {config : Config} {named : Option String} {store : Store}
    (hopen : openStore config named disk = .ok store) {path : String}
    (hpath : (named <|> config.historyPath) = some path) {records : List Record}
    (hrecords : HistoryFile.recordsAt disk path = .ok records) (session : String) :
    store.archive.get? session =
      (records.filter (·.session == session)).getLast?.map fun record =>
        ⟨session, newest config.window.toNat record.commands⟩ := by
  rw [openStore, hpath, Store.openAt, HistoryFile.openAt_eq_restore, hrecords] at hopen
  obtain rfl := Except.ok.inj hopen
  exact Archive.get?_restore_records (Archive.empty config.window.toNat) records

/-- **Expanding and listing only read.** Whatever the disk, the configuration and the history are
like, such a run leaves the disk as it is, a second run ends as the first one did, and neither the
way in which commands are run nor the standard input has a part in it. Where it comes to a question
to the engine, all that is asked for is the record of the session. The answer comes from the records
of the history file as far as the window goes, and the file still holds all of them. -/
theorem run_readOnly {words : List String} (hread : Request.read words = .ok (.invoke invocation))
    (hasks : invocation.command ≠ .loop) (disk : Disk) :
    let ending := run surroundings words disk
    ending.disk = disk ∧ run surroundings words ending.disk = ending ∧
      (∀ launch input, run { surroundings with launch, input } words disk = ending) ∧
      ∀ config, loadConfig surroundings.environment invocation disk = .ok config →
        ∀ store, openStore config invocation.historyPath disk = .ok store →
          (∃ step, invocation.question? = some step ∧
            ∃ calls, ((engine surroundings config).journaled.step step (⟨store, disk⟩, [])).2 =
                (⟨store, disk⟩, calls) ∧
              ∀ call ∈ calls, call = .fetch invocation.session) ∧
          ending = .ofAnswer disk
            (invocation.answer config (store.archive.get? invocation.session)) ∧
          ∀ path, (invocation.historyPath <|> config.historyPath) = some path →
            ∀ records, HistoryFile.recordsAt disk path = .ok records →
              HistoryFile.recordsAt ending.disk path = .ok records ∧
                store.archive.get? invocation.session =
                  (records.filter (·.session == invocation.session)).getLast?.map fun record =>
                    ⟨invocation.session, newest config.window.toNat record.commands⟩ := by
  intro ending
  have hinvoke (surroundings : Surroundings) :
      run surroundings words disk = invoke surroundings invocation disk := by
    rw [run, hread]
  have hdisk : ending.disk = disk := by
    rw [show ending = _ from hinvoke surroundings, disk_invoke surroundings hasks]
  refine ⟨hdisk, by rw [hdisk], fun launch input => ?_, fun config hconfig store hopen => ?_⟩
  · rw [hinvoke, invoke_eq _ hasks]
    exact ((hinvoke surroundings).trans (invoke_eq surroundings hasks)).symm
  · have hending : ending = .ofAnswer disk
        (invocation.answer config (store.archive.get? invocation.session)) := by
      rw [show ending = _ from hinvoke surroundings, invoke_eq surroundings hasks, hconfig]
      simp only [hopen]
    refine ⟨?_, hending, fun path hpath records hrecords => ?_⟩
    · obtain ⟨configPath, session, command⟩ := invocation
      cases command with
      | loop => exact absurd rfl hasks
      | expand text path =>
        exact ⟨_, rfl, Engine.step_question (serves_engine surroundings config) rfl _⟩
      | list limit path =>
        exact ⟨_, rfl, Engine.step_question (serves_engine surroundings config) rfl _⟩
    · exact ⟨hdisk ▸ hrecords, get?_openStore hopen hpath hrecords invocation.session⟩

/-- A file that holds more than the window, beside commands that would leave nothing of the disk. -/
theorem run_readOnly_window :
    let records : List Record := [⟨"ci", ["ls", "pwd", "id"]⟩, ⟨"local", ["w"]⟩]
    let disk : Disk := { entries := [(["c"], .file (Utf8.ofString "history: 2\n")),
      (["h"], .file (Utf8.encode (HistoryFormat.render records)))] }
    let surroundings : Surroundings :=
      ⟨⟨none, none⟩, [], fun _ _ disk => (.ok ⟨"", "", 0⟩, { disk with entries := [] })⟩
    let words := ["-c", "c", "expand", "!1", "-s", "ci", "--history-file", "h"]
    let invocation : Invocation := ⟨some "c", "ci", .expand "!1" (some "h")⟩
    let ending := run surroundings words disk
    Request.read words = .ok (.invoke invocation) ∧ invocation.command ≠ .loop ∧
      ending = .ofOutput disk "pwd\n" ∧ run surroundings words ending.disk = ending ∧
      HistoryFile.recordsAt ending.disk "h" = .ok records := by
  intro records disk surroundings words invocation ending
  have hread : Request.read words = .ok (.invoke invocation) := by decide +kernel
  have hasks : invocation.command ≠ .loop := by decide
  have hconfig : loadConfig ⟨none, none⟩ invocation disk = .ok { window := 2 } := by decide +kernel
  have hrecords : HistoryFile.recordsAt disk "h" = .ok records := by decide +kernel
  have hopen : openStore { window := 2 } (some "h") disk =
      .ok (.inFile ⟨"h", (Archive.empty 2).restore records⟩) := by
    show (HistoryFile.openAt disk "h" 2).map Store.inFile = _
    rw [HistoryFile.openAt_eq_restore, hrecords]
    rfl
  obtain ⟨-, hagain, -, hstore⟩ := run_readOnly surroundings hread hasks disk
  obtain ⟨-, hending, hfile⟩ := hstore _ hconfig _ hopen
  obtain ⟨hkept, hget⟩ := hfile "h" rfl records hrecords
  rw [hget] at hending
  have hanswer : invocation.answer { window := 2 } (some ⟨"ci", ["pwd", "id"]⟩) = .ok "pwd\n" := by
    decide +kernel
  exact ⟨hread, hasks, hending.trans (congrArg (Ending.ofAnswer disk) hanswer), hagain, hkept⟩

end CommandLine

end HistoryExpansion
