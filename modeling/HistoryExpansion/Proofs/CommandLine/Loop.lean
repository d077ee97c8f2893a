import HistoryExpansion.CommandLine.Program
import HistoryExpansion.Proofs.HistoryFile.Opening
import HistoryExpansion.Proofs.Repl.Provenance

/-!
# The loop of the program

The program ends as its loop does (`runLoop_eq_ofLoop`), and the loop treats each line on its own:
what is printed, run and kept is what handling the lines one after the other prints, runs and keeps.
Neither what stands behind the line that ends the loop nor blank lines nor blanks around a line
count: `runLoop_lines`. And nothing is ever run or kept that was not in the record at the start or
was typed as it stands: `runLoop_provenance`.
-/

namespace HistoryExpansion.CommandLine

open Backend (Call)

/-- The end of a run of the program whose loop is over. -/
def Ending.ofLoop {World : Type} (run : Repl.Run World) (disk : Disk) : Ending :=
  match run.stopped with
  | none => ⟨0, run.output, run.errors, disk⟩
  | some failure => ⟨1, run.output, run.errors ++ (Report.ofFailure failure).render, disk⟩

variable {surroundings : Surroundings} {config : Config} {disk : Disk} {store : Store}

/-- **The program ends as its loop does**, whatever is noted while the loop runs. -/
theorem runLoop_eq_ofLoop (hopen : openStore config none disk = .ok store) {Note : Type}
    {outer : Engine (Workspace × Note)} (h : outer.Observes (engine surroundings config))
    (session : String) (note : Note) :
    runLoop surroundings config session disk =
      let run := Repl.run outer session surroundings.input (⟨store, disk⟩, note)
      .ofLoop run run.world.1.disk := by
  rw [runLoop, hopen]
  show Ending.ofLoop (Repl.run (engine surroundings config) session surroundings.input _)
    (Repl.run (engine surroundings config) session surroundings.input _).world.disk = _
  rw [← Repl.unwatched_run h session surroundings.input ⟨store, disk⟩ note]
  rfl

/-- **The loop treats each line on its own.** What it prints, runs and keeps of an input is what
handling the texts of the input in order prints, runs and keeps; a line has at most one command run,
and the loop fails where a line cannot be read and nowhere else. So neither what stands behind the
line that ends it, nor blank lines, nor blanks around a line change anything. -/
theorem runLoop_lines (surroundings : Surroundings)
    (hopen : openStore config none disk = .ok store) (session : String) :
    let engine := (engine surroundings config).journaled
    let run (input : Octets) := Repl.run engine session input (⟨store, disk⟩, [])
    (∀ input,
      let handled := Repl.handleAll engine session (Repl.handled input) (⟨store, disk⟩, [])
      ((run input).replies, (run input).world) = handled ∧
        handled.1.length = (Repl.handled input).length ∧
        (run input).output = String.join (handled.1.map Repl.outputOf) ∧
        (run input).errors = String.join (handled.1.map Repl.errorsOf) ∧
        ((run input).stopped.isSome ↔ Repl.stop? (Repl.entries input) = some none) ∧
        runLoop { surroundings with input } config session disk =
          .ofLoop (run input) (run input).world.1.disk) ∧
    (∀ text workspace calls, ∃ more,
      (Repl.handleLine engine session text (workspace, calls)).2.2 = calls ++ more ∧
        (Backend.ran more).length ≤ 1) ∧
    (∀ front back, (∃ entry ∈ Repl.entries front, Repl.goesOn entry = false) →
      (run (front ++ Repl.lineFeed :: back)).outcome = (run front).outcome) ∧
    (∀ front back blanks, (∀ c ∈ blanks, Text.isBlank c = true) →
      (run (Repl.joined (front ++ Utf8.encode blanks :: back))).outcome =
        (run (Repl.joined (front ++ back))).outcome) ∧
    (∀ front line back lead trail, (∀ c ∈ lead, Text.isBlank c = true) →
      (∀ c ∈ trail, Text.isBlank c = true) →
        (run (Repl.joined (front ++ (Utf8.encode lead ++ line ++ Utf8.encode trail) ::
          back))).outcome = (run (Repl.joined (front ++ line :: back))).outcome) := by
  intro engine run
  refine ⟨fun input => ?_, fun text workspace calls => ?_, fun front back h => ?_,
    fun front back blanks h => ?_, fun front line back lead trail hlead htrail => ?_⟩
  · obtain ⟨hhandled, hstopped⟩ := Prod.mk.inj
      (Repl.outcome_run engine session input (⟨store, disk⟩, []))
    have hreplies : (run input).replies =
        (Repl.handleAll engine session (Repl.handled input) (⟨store, disk⟩, [])).1 :=
      congrArg Prod.fst hhandled
    refine ⟨hhandled, Repl.length_handleAll engine session _ _, ?_, ?_, ?_, ?_⟩
    · rw [Repl.Run.output_eq, hreplies]
    · rw [Repl.Run.errors_eq, hreplies]
    · rw [hstopped, decide_eq_true_eq]
    · exact runLoop_eq_ofLoop hopen (Engine.observes_journaled _) session []
  · exact ⟨_, congrArg (·.2.2) (Repl.handleLine_journaled _ session text workspace calls),
      Repl.length_ran_lineCalls_le _ session text workspace⟩
  · exact Repl.outcome_run_append h back _
  · refine Repl.outcome_run_congr ?_ _
    rw [Repl.asked_joined, Repl.asked_joined, List.flatMap_append, List.flatMap_append,
      List.flatMap_cons, Repl.asked_encode h, List.nil_append]
  · refine Repl.outcome_run_congr ?_ _
    rw [Repl.asked_joined, Repl.asked_joined, List.flatMap_append, List.flatMap_append,
      List.flatMap_cons, List.flatMap_cons, Repl.asked_pad hlead htrail]

/-- A blank line, blanks of several kinds around a command that fails, and a line behind the end. -/
theorem runLoop_lines_blanks :
    let launch (_ : Launcher) (command : String) (disk : Disk) : Except Failure Output × Disk :=
      if command = "cat" then (.error (.timeout 30), disk) else (.ok ⟨command, "!", 1⟩, disk)
    let surroundings : Surroundings := ⟨⟨none, none⟩, [], launch⟩
    let store : Store := .inMemory (Archive.empty 500)
    let disk : Disk := { entries := [] }
    let run (input : Octets) :=
      Repl.run (engine surroundings {}).journaled "local" input (⟨store, disk⟩, [])
    let plain := Utf8.ofString "ls\n!9\ncat\nquit"
    openStore {} none disk = .ok store ∧
      (run plain).output = "ls!\n[exit 1]\n" ∧
      (run plain).errors = "Invalid index.\nerror: Command timeout after 30s\n" ∧
      (run (Utf8.ofString "ls\n\u3000\r\n!9\n\tcat\u2003\nquit\nrm")).outcome =
        (run plain).outcome := by
  intro launch surroundings store disk run plain
  have hopen : openStore {} none disk = .ok store := rfl
  obtain ⟨hline, -, hafter, hblank, hpad⟩ := runLoop_lines surroundings hopen "local"
  obtain ⟨-, -, houtput, herrors, -⟩ := hline plain
  refine ⟨hopen, houtput.trans (by decide +kernel), herrors.trans (by decide +kernel), ?_⟩
  have hsame {left right : Octets} (h : left = right) :
      (run left).outcome = (run right).outcome :=
    congrArg (fun input => (run input).outcome) h
  let front := Utf8.ofString "ls\n\u3000\r\n!9\n\tcat\u2003\nquit"
  let first := Utf8.ofString "ls"
  let second := Utf8.ofString "!9"
  let padded := Utf8.encode ['\t'] ++ Utf8.ofString "cat" ++ Utf8.encode ['\u2003']
  let last := Utf8.ofString "quit"
  calc (run (Utf8.ofString "ls\n\u3000\r\n!9\n\tcat\u2003\nquit\nrm")).outcome
      = (run (front ++ Repl.lineFeed :: Utf8.ofString "rm")).outcome :=
        hsame (by decide +kernel)
    _ = (run front).outcome := hafter _ _ ⟨some "quit", by decide +kernel, by decide +kernel⟩
    _ = (run (Repl.joined ([first] ++ Utf8.encode ['\u3000', '\r'] ::
          [second, padded, last]))).outcome := hsame (by decide +kernel)
    _ = (run (Repl.joined ([first] ++ [second, padded, last]))).outcome :=
        hblank _ _ _ (List.all_eq_true.1 (by decide))
    _ = (run (Repl.joined ([first, second] ++ Utf8.ofString "cat" :: [last]))).outcome :=
        hpad [first, second] _ [last] _ _ (List.all_eq_true.1 (by decide))
          (List.all_eq_true.1 (by decide))
    _ = (run plain).outcome := hsame (by decide +kernel)

/-- **The loop runs and keeps nothing but what was there before or was typed.** At every moment of
the first lines, all that is kept, run and in the record was in the record at the start or is typed
by one of these lines; and a line that refers to a command has that very command kept and run,
whatever the command looks like. -/
theorem runLoop_provenance (hopen : openStore config none disk = .ok store) (session : String)
    {read : List Octets} (hread : read <+: Repl.lines surroundings.input) :
    let engine := engine surroundings config
    let start : Workspace × List (Moment Workspace) := (⟨store, disk⟩, [])
    let whole := Repl.run engine.watched session surroundings.input start
    let run := Repl.runLines engine.watched session read start
    let archive (workspace : Workspace) := workspace.store.archive
    let known (command : String) := command ∈ store.archive.commandsOf session ∨
      ∃ line ∈ read, ∃ text, Repl.Types config.trigger line text command
    runLoop surroundings config session disk = .ofLoop whole whole.world.1.disk ∧
      run.world.2 <+: whole.world.2 ∧
      (∀ moment ∈ run.world.2, moment.Sound archive session known) ∧
      (∀ command ∈ (archive run.world.1).commandsOf session, known command) ∧
      ∀ text asked workspace calls command,
        Message.expansion? config.trigger text = some asked →
          resolve session ((archive workspace).get? session) asked.expression = .ok command →
            (Repl.handleLine engine.journaled session text (workspace, calls)).2.2 =
              calls ++ .fetch session ::
                if asked.printOnly then []
                else [.append session command, .run session command] := by
  intro engine start whole run archive known
  have hserves : engine.backend.Serves archive := Backend.serves_workspace _
  have hstart : SoundSoFar archive session known start :=
    ⟨fun command hcommand => .inl hcommand, List.forall_mem_nil _⟩
  have htexts : ∀ text ∈ Repl.textsOf read,
      Message.expansion? engine.trigger text = none → known text := by
    intro text hmem hnone
    obtain ⟨line, hline, hrequest⟩ := Repl.exists_of_mem_textsOf hmem
    exact .inr ⟨line, hline, Repl.types_of_ofLine hrequest hnone⟩
  have hsound : SoundSoFar archive session known run.world := by
    show SoundSoFar archive session known (Repl.runLines _ session read start).world
    rw [Repl.runLines_eq]
    exact Repl.sound_handleAll hserves htexts hstart
  refine ⟨runLoop_eq_ofLoop hopen engine.observes_watched session [], ?_, hsound.moments,
    hsound.record, fun text asked workspace calls command hasked hcommand => ?_⟩
  · obtain ⟨back, hback⟩ := Repl.textsOf_prefix hread
    show (Repl.runLines _ session read start).world.2 <+: (Repl.run _ session _ start).world.2
    rw [Repl.run, Repl.runLines_eq, Repl.runLines_eq, ← hback]
    exact Repl.prefix_handleAll_append engine session _ back start
  · rw [Repl.handleLine_journaled, Repl.lineCalls_of_resolve hserves hasked hcommand]

/-- A record that holds what looks like an expansion, and commands that all fail: the first line has
it run as it stands, before anything else was typed. -/
theorem runLoop_provenance_stored :
    let records : List Record := [⟨"local", ["!!", "ls"]⟩]
    let disk : Disk :=
      { entries := [(["h"], .file (Utf8.encode (HistoryFormat.render records)))] }
    let surroundings : Surroundings :=
      ⟨⟨none, none⟩, Utf8.ofString " !1\ndate\n!2:p\nexit\nrm",
        fun _ _ disk => (.error (.timeout 30), disk)⟩
    let config : Config := { historyPath := some "h" }
    let store : Store := .inFile ⟨"h", (Archive.empty 500).restore records⟩
    let read := [Utf8.ofString " !1\n"]
    let engine := engine surroundings config
    let run := Repl.runLines engine.watched "local" read (⟨store, disk⟩, [])
    let known (command : String) := command ∈ store.archive.commandsOf "local" ∨
      ∃ line ∈ read, ∃ text, Repl.Types "!" line text command
    openStore config none disk = .ok store ∧ read <+: Repl.lines surroundings.input ∧
      run.world.2.map Moment.call = [.append "local" "!!", .run "local" "!!"] ∧
      (∀ moment ∈ run.world.2,
        moment.Sound (fun workspace => workspace.store.archive) "local" known) ∧
      (Repl.run engine.watched "local" surroundings.input (⟨store, disk⟩, [])).world.2.map
        Moment.call = [.append "local" "!!", .run "local" "!!", .append "local" "date",
          .run "local" "date"] := by
  intro records disk surroundings config store read engine run known
  have hopen : openStore config none disk = .ok store := by
    have hrecords : HistoryFile.recordsAt disk "h" = .ok records := by decide +kernel
    show (HistoryFile.openAt disk "h" 500).map Store.inFile = _
    rw [HistoryFile.openAt_eq_restore, hrecords]
    rfl
  have hread : read <+: Repl.lines surroundings.input := by decide +kernel
  obtain ⟨-, -, hsound, -⟩ := runLoop_provenance hopen "local" hread
  exact ⟨hopen, hread, by decide +kernel, hsound, by decide +kernel⟩

end HistoryExpansion.CommandLine
