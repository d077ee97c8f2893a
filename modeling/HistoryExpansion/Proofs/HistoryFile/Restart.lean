import HistoryExpansion.Proofs.Engine.Memory
import HistoryExpansion.Proofs.HistoryFile.Opening
import HistoryExpansion.Proofs.HistoryFile.Persist
import HistoryExpansion.Proofs.HistoryFile.Settled
import HistoryExpansion.Store

/-!
# Restarts are invisible

An engine over a history file may be dropped and its file opened anew between any two steps. As long
as every write of the file succeeds and nothing else touches it, nobody can tell: the answers and
the requests to the services are those of an engine over an archive in memory that is never
restarted (`serve_eq_run`).

What is relied on is `Faithful`: a file that was written reads as what was written, and commands
leave it alone. The first is true of every path on a sound disk where neither a link nor a device is
in the way (`Faithful.of_unobstructed`), and of a mere name also where a link stands there
(`Faithful.of_inWorkingDirectory`).

The invariant is `Mirrors`: the file's archive is the one in memory, and opening the file again
would give that archive back. An append re-establishes it, since the archive is bounded by the
window and is therefore restored from its own records as it was.
-/

namespace HistoryExpansion

open Backend (Call)

/-! ## Writes that fail -/

namespace Backend

variable {World : Type}

/-- The failure that an answer is, if it is one. -/
def failures {α : Type} : Except Failure α → List Failure
  | .error failure => [failure]
  | .ok _ => []

/-- A backend that notes the failures to append. -/
def noting (backend : Backend World) : Backend (World × List Failure) where
  fetch session world :=
    let (answer, rest) := backend.fetch session world.1
    (answer, (rest, world.2))
  append session command world :=
    let (answer, rest) := backend.append session command world.1
    (answer, (rest, world.2 ++ failures answer))
  run session command world :=
    let (answer, rest) := backend.run session command world.1
    (answer, (rest, world.2))

end Backend

/-- What has been noted stays noted. -/
theorem Task.prefix_carry_noting {World : Type} (backend : Backend World) (session : String)
    (task : Task) (world : World × List Failure) :
    world.2 <+: (task.carry backend.noting session world).2.2 := by
  cases task with
  | reply answer => exact List.prefix_rfl
  | keep command => exact List.prefix_append _ _
  | perform command wrap => exact List.prefix_append _ _

/-! ## Serving with restarts -/

/-- What is asked of an engine over a history file. -/
inductive Turn where
  /-- To take a step. -/
  | take (step : Step)
  /-- To drop the store and to open the file anew. -/
  | restart
  deriving DecidableEq, Repr

/-- The step that a turn takes. -/
def Turn.step? : Turn → Option Step
  | .take step => some step
  | .restart => none

/-- A workspace with the failures to write its history file, and a journal. -/
abbrev FileWorld := (Workspace × List Failure) × List Call

/-- How an engine over a history file fared. -/
structure Service where
  /-- The answers to the steps, in order. -/
  answers : List (Except Failure Answer)
  /-- The failure to open the file that ended the service, if it was one. -/
  stopped : Option Failure
  /-- The world at the end. -/
  world : FileWorld

namespace Service

variable (trigger path : String) (window : Nat)
  (run : (session command : String) → Action Disk Output)

/-- The engine over a history file. -/
def engine : Engine (Workspace × List Failure) :=
  ⟨trigger, (Workspace.backend run).noting⟩

/-- Takes turns from a world on. The service ends when the file cannot be opened. -/
def runFrom : List Turn → FileWorld → Service
  | [], world => ⟨[], none, world⟩
  | .take step :: turns, world =>
    let (answer, world) := (engine trigger run).journaled.step step world
    let rest := runFrom turns world
    { rest with answers := answer :: rest.answers }
  | .restart :: turns, ((workspace, noted), journal) =>
    match Store.openAt workspace.disk (some path) window with
    | .error failure => ⟨[], some failure, ((workspace, noted), journal)⟩
    | .ok store => runFrom turns ((⟨store, workspace.disk⟩, noted), journal)

/-- Opens the file on a disk and takes turns. Before it is opened there are no records. -/
def serve (turns : List Turn) (disk : Disk) : Service :=
  runFrom trigger path window run (.restart :: turns)
    ((⟨.inMemory (Archive.empty window), disk⟩, []), [])

end Service

/-! ## What is relied on -/

/-- What keeps restarts from showing, on disks that are sound in some sense: a file that was written
reads as what was written, and a command answers by what it is and leaves the file alone. -/
structure Faithful (path : String) (run : (session command : String) → Action Disk Output)
    (answer : (session command : String) → Except Failure Output) (sound : Disk → Prop) : Prop where
  written : ∀ {archive : Archive} {disk left : Disk}, sound disk →
    HistoryFile.persist ⟨path, archive⟩ disk = (.ok (), left) →
    sound left ∧ left.read path = .ok (HistoryFile.content archive)
  answered : ∀ {disk : Disk}, sound disk → ∀ session command,
    (run session command disk).1 = answer session command
  untouched : ∀ {disk : Disk}, sound disk → ∀ session command,
    sound (run session command disk).2 ∧ (run session command disk).2.read path = disk.read path

/-- A history file in the working directory reads as what was written, as long as commands stay away
from it. -/
theorem Faithful.of_inWorkingDirectory {path : String} (hpath : HistoryFile.InWorkingDirectory path)
    {run : (session command : String) → Action Disk Output}
    {answer : (session command : String) → Except Failure Output}
    (hanswered : ∀ session command disk, (run session command disk).1 = answer session command)
    (huntouched : ∀ session command disk, HistoryFile.Ready path disk →
      HistoryFile.Ready path (run session command disk).2 ∧
        (run session command disk).2.read path = disk.read path) :
    Faithful path run answer (HistoryFile.Ready path) :=
  ⟨fun hready h => HistoryFile.persist_of_inWorkingDirectory hpath hready h,
    fun _ session command => hanswered session command _,
    fun hready session command => huntouched session command _ hready⟩

/-- A history file at any path reads as what was written where nothing is in the way, as long as
commands put nothing there and stay away from the file. -/
theorem Faithful.of_unobstructed {path : String}
    {run : (session command : String) → Action Disk Output}
    {answer : (session command : String) → Except Failure Output}
    (hanswered : ∀ session command disk, (run session command disk).1 = answer session command)
    (huntouched : ∀ session command disk, HistoryFile.Unobstructed path disk →
      HistoryFile.Unobstructed path (run session command disk).2 ∧
        (run session command disk).2.read path = disk.read path) :
    Faithful path run answer (HistoryFile.Unobstructed path) :=
  ⟨fun hfree h => hfree.of_persist h, fun _ session command => hanswered session command _,
    fun hfree session command => huntouched session command _ hfree⟩

/-- A world with a history file holds what an archive in memory does, and would hold it again if the
file were opened anew. -/
structure Mirrors (path : String) (window : Nat) (sound : Disk → Prop)
    (world : Workspace × List Failure) (archive : Archive) : Prop where
  unfailing : world.2 = []
  store : world.1.store = .inFile ⟨path, archive⟩
  bound : archive.window = window
  bounded : archive.Bounded
  sound : sound world.1.disk
  reopens : HistoryFile.openAt world.1.disk path window = .ok ⟨path, archive⟩

namespace Mirrors

variable {path : String} {window : Nat} {run : (session command : String) → Action Disk Output}
  {answer : (session command : String) → Except Failure Output} {sound : Disk → Prop}
  {world : Workspace × List Failure} {archive : Archive}

/-! ## Services -/

theorem fetch (h : Mirrors path window sound world archive) (session : String) :
    (Workspace.backend run).noting.fetch session world = (.ok (archive.get? session), world) := by
  show (Except.ok (world.1.store.archive.get? session), world) = _
  rw [h.store]
  rfl

theorem append_noting (file : HistoryFile) (session command : String) (disk : Disk)
    (noted : List Failure) :
    (Workspace.backend run).noting.append session command (⟨.inFile file, disk⟩, noted) =
      let (result, file, disk) := file.append session command disk
      (result, (⟨.inFile file, disk⟩, noted ++ Backend.failures result)) := rfl

/-- An append that does not fail leaves the archive in the file. -/
theorem append (hfaithful : Faithful path run answer sound)
    (h : Mirrors path window sound world archive) (session command : String)
    (hwrites : ((Workspace.backend run).noting.append session command world).2.2 = []) :
    ((Workspace.backend run).noting.append session command world).1 = .ok () ∧
      Mirrors path window sound ((Workspace.backend run).noting.append session command world).2
        (archive.push session command) := by
  obtain ⟨⟨store, disk⟩, noted⟩ := world
  obtain ⟨rfl, rfl, rfl, hbounded, hsound, -⟩ := h
  have hpushed : (archive.push session command).Bounded := hbounded.push session command
  rw [append_noting, HistoryFile.append] at hwrites ⊢
  rcases hpersist : HistoryFile.persist ⟨path, archive.push session command⟩ disk with
    ⟨error | ⟨⟩, left⟩
  · rw [hpersist] at hwrites
    exact absurd hwrites (List.cons_ne_nil _ _)
  · obtain ⟨hleft, hread⟩ := hfaithful.written hsound hpersist
    have hreopens := HistoryFile.openAt_of_read hread archive.window
    rw [← Archive.window_push archive session command, Archive.restore_records hpushed] at hreopens
    exact ⟨rfl, rfl, rfl, rfl, hpushed, hleft, hreopens⟩

/-- A command answers as it does anywhere and leaves the file alone. -/
theorem execute (hfaithful : Faithful path run answer sound)
    (h : Mirrors path window sound world archive) (session command : String) :
    ((Workspace.backend run).noting.run session command world).1 = answer session command ∧
      Mirrors path window sound ((Workspace.backend run).noting.run session command world).2
        archive := by
  obtain ⟨hleft, hread⟩ := hfaithful.untouched h.sound session command
  have hreopens := HistoryFile.openAt_congr hread window
  exact ⟨hfaithful.answered h.sound session command,
    h.unfailing, h.store, h.bound, h.bounded, hleft, hreopens.trans h.reopens⟩

/-- Opening the file anew changes nothing. -/
theorem openAt (h : Mirrors path window sound world archive) :
    Store.openAt world.1.disk (some path) window = .ok world.1.store := by
  rw [Store.openAt, h.reopens, h.store]
  rfl

/-! ## Steps -/

/-- A task that does not fail to write has the answer that it has in memory. -/
theorem carry (hfaithful : Faithful path run answer sound)
    (h : Mirrors path window sound world archive) (session : String) (task : Task)
    (hwrites : (task.carry (Workspace.backend run).noting session world).2.2 = []) :
    (task.carry (Workspace.backend run).noting session world).1 =
        (task.carry (Backend.inMemory answer) session archive).1 ∧
      Mirrors path window sound (task.carry (Workspace.backend run).noting session world).2
        (task.carry (Backend.inMemory answer) session archive).2 := by
  cases task with
  | reply reply => exact ⟨rfl, h⟩
  | keep command =>
    obtain ⟨hanswer, hmirrors⟩ := h.append hfaithful session command hwrites
    exact ⟨congrArg (Except.map _) hanswer, hmirrors⟩
  | perform command wrap =>
    obtain ⟨-, happended⟩ := h.append hfaithful session command hwrites
    obtain ⟨hanswer, hmirrors⟩ := happended.execute hfaithful session command
    exact ⟨congrArg (Except.map _) hanswer, hmirrors⟩

theorem taskIn_eq (h : Mirrors path window sound world archive) (trigger : String)
    (answer : (session command : String) → Except Failure Output) (step : Step) :
    (Service.engine trigger run).taskIn step world =
      (Engine.inMemory trigger answer).taskIn step archive := by
  show step.task trigger ((Workspace.backend run).noting.fetch step.session world).1 = _
  rw [h.fetch]
  rfl

/-- A step that does not fail to write has the answer that it has in memory. -/
theorem step (hfaithful : Faithful path run answer sound)
    (h : Mirrors path window sound world archive) {trigger : String} {step : Step}
    (hwrites : ((Service.engine trigger run).step step world).2.2 = []) :
    ((Service.engine trigger run).step step world).1 =
        ((Engine.inMemory trigger answer).step step archive).1 ∧
      Mirrors path window sound ((Service.engine trigger run).step step world).2
        ((Engine.inMemory trigger answer).step step archive).2 := by
  rw [Engine.step_of_fetch _ rfl, h.taskIn_eq trigger answer] at hwrites ⊢
  rw [Engine.step_of_fetch _ rfl]
  exact h.carry hfaithful step.session _ hwrites

/-- **One step** that does not fail to write is the step in memory, down to its requests. -/
theorem step_journaled (hfaithful : Faithful path run answer sound)
    (h : Mirrors path window sound world archive) {trigger : String} {step : Step}
    {journal : List Call}
    (hwrites : ((Service.engine trigger run).journaled.step step (world, journal)).2.1.2 = []) :
    let file := (Service.engine trigger run).journaled.step step (world, journal)
    let memory := (Engine.inMemory trigger answer).journaled.step step (archive, journal)
    file.1 = memory.1 ∧ Mirrors path window sound file.2.1 memory.2.1 ∧ file.2.2 = memory.2.2 := by
  rw [Engine.step_journaled] at hwrites
  obtain ⟨hanswer, hmirrors⟩ := h.step hfaithful hwrites
  intro file memory
  have hfile : file = _ := Engine.step_journaled _ step world journal
  have hmemory : memory = _ := Engine.step_journaled _ step archive journal
  rw [hfile, hmemory]
  refine ⟨hanswer, hmirrors, ?_⟩
  rw [h.taskIn_eq trigger answer]
  rfl

end Mirrors

/-! ## Runs -/

namespace Service

variable {trigger path : String} {window : Nat}
  {run : (session command : String) → Action Disk Output}
  {answer : (session command : String) → Except Failure Output} {sound : Disk → Prop}

theorem prefix_step (step : Step) (world : FileWorld) :
    world.1.2 <+: ((engine trigger run).journaled.step step world).2.1.2 := by
  obtain ⟨world, journal⟩ := world
  rw [Engine.step_journaled, Engine.step_of_fetch _ rfl]
  exact Task.prefix_carry_noting (Workspace.backend run) step.session _ world

theorem prefix_runFrom (turns : List Turn) (world : FileWorld) :
    world.1.2 <+: (runFrom trigger path window run turns world).world.1.2 := by
  induction turns generalizing world with
  | nil => exact List.prefix_rfl
  | cons turn turns ih =>
    cases turn with
    | take step => exact (prefix_step step world).trans (ih _)
    | restart =>
      rw [runFrom]
      split
      · exact List.prefix_rfl
      · next store _ => exact ih ((⟨store, world.1.1.disk⟩, world.1.2), world.2)

/-- A world that mirrors an archive in memory goes on like it, restarts or not. -/
theorem runFrom_eq_run (hfaithful : Faithful path run answer sound) (turns : List Turn)
    {world : FileWorld} {archive : Archive} (h : Mirrors path window sound world.1 archive)
    (hwrites : (runFrom trigger path window run turns world).world.1.2 = []) :
    let service := runFrom trigger path window run turns world
    let memory := (Engine.inMemory trigger answer).journaled.run (turns.filterMap Turn.step?)
      (archive, world.2)
    service.stopped = none ∧ service.answers = memory.1 ∧ service.world.2 = memory.2.2 := by
  induction turns generalizing world archive with
  | nil => exact ⟨rfl, rfl, rfl⟩
  | cons turn turns ih =>
    cases turn with
    | take step =>
      have hnoted : ((engine trigger run).journaled.step step world).2.1.2 = [] := by
        rw [← List.prefix_nil, ← hwrites]
        exact prefix_runFrom turns _
      obtain ⟨hanswer, hmirrors, hjournal⟩ := h.step_journaled hfaithful hnoted
      obtain ⟨hstopped, hanswers, hcalls⟩ := ih hmirrors hwrites
      rw [hjournal] at hanswers hcalls
      refine ⟨hstopped, ?_, hcalls⟩
      exact List.cons_eq_cons.2 ⟨hanswer, hanswers⟩
    | restart =>
      rw [runFrom, h.openAt] at hwrites ⊢
      exact ih h hwrites

/-- **Restarts are invisible.** If every write of the file succeeds, a service that drops its store
and opens it anew between any two steps is never stopped, and its answers and requests are those of
an engine over an archive in memory that starts from the records first read. -/
theorem serve_eq_run (hfaithful : Faithful path run answer sound) {disk : Disk}
    (hsound : sound disk) {records : List Record}
    (hrecords : HistoryFile.recordsAt disk path = .ok records)
    {turns : List Turn} (hwrites : (serve trigger path window run turns disk).world.1.2 = []) :
    let service := serve trigger path window run turns disk
    let memory := (Engine.inMemory trigger answer).journaled.run (turns.filterMap Turn.step?)
      ((Archive.empty window).restore records, [])
    service.stopped = none ∧ service.answers = memory.1 ∧ service.world.2 = memory.2.2 := by
  have hopen : HistoryFile.openAt disk path window =
      .ok ⟨path, (Archive.empty window).restore records⟩ := by
    rw [HistoryFile.openAt_eq_restore, hrecords]
    rfl
  have hstart : Mirrors path window sound
      (⟨.inFile ⟨path, (Archive.empty window).restore records⟩, disk⟩, [])
      ((Archive.empty window).restore records) :=
    ⟨rfl, rfl, Archive.window_restore _ _, Archive.Bounded.restore _ _, hsound, hopen⟩
  rw [serve, runFrom, Store.openAt, hopen] at hwrites ⊢
  exact runFrom_eq_run hfaithful turns hstart hwrites

/-- A file with two records of one session and an empty one, beside commands that print
themselves. It stands in the working directory, or in a directory where a temporary file was left
behind. -/
theorem serve_eq_run_history :
    let answer : (session command : String) → Except Failure Output :=
      fun _ command => .ok ⟨command, "", 0⟩
    let run : (session command : String) → Action Disk Output :=
      fun session command disk => (answer session command, disk)
    let records : List Record := [⟨"s", ["ls"]⟩, ⟨"t", []⟩, ⟨"s", ["w", "df", "id"]⟩]
    let turns : List Turn := [.take (.message "s" "!-2"), .restart, .take (.record "t" "\"\\\n\""),
      .restart, .restart, .take (.message "t" "!!"), .take (.history "s")]
    let memory := (Engine.inMemory "!" answer).journaled.run (turns.filterMap Turn.step?)
      ((Archive.empty 2).restore records, [])
    let served (path : String) (sound : Disk → Prop) (disk : Disk) : Prop :=
      Faithful path run answer sound ∧ sound disk ∧
        HistoryFile.recordsAt disk path = .ok records ∧
        (serve "!" path 2 run turns disk).world.1.2 = [] ∧
        (serve "!" path 2 run turns disk).stopped = none ∧
        (serve "!" path 2 run turns disk).answers = memory.1 ∧
        (serve "!" path 2 run turns disk).world.2 = memory.2.2
    let octets := Utf8.encode (HistoryFormat.render records)
    let disk : Disk := { entries := [(["history.json"], .file octets)] }
    let nested : Disk := { entries := [(["d"], .directory), (["d", "history.json"], .file octets),
      (["d", "history.json.tmp"], .file [])] }
    served "history.json" (HistoryFile.Ready "history.json") disk ∧
      served "d/history.json" (HistoryFile.Unobstructed "d/history.json") nested := by
  intro answer run records turns memory served octets disk nested
  have hserved {path : String} {sound : Disk → Prop} {disk : Disk}
      (hfaithful : Faithful path run answer sound) (hsound : sound disk)
      (hread : disk.read path = .ok octets)
      (hwrites : (serve "!" path 2 run turns disk).world.1.2 = []) : served path sound disk := by
    have hrecords : HistoryFile.recordsAt disk path = .ok records := by
      rw [HistoryFile.recordsAt, hread]
      exact HistoryFile.recordsOf_render records
    exact ⟨hfaithful, hsound, hrecords, hwrites, serve_eq_run hfaithful hsound hrecords hwrites⟩
  constructor
  · have hpath : HistoryFile.InWorkingDirectory "history.json" := by decide +kernel
    have hnone : disk.entry? (disk.here ++ [HistoryFile.temporaryPath "history.json"]) = none := by
      decide +kernel
    have hready : HistoryFile.Ready "history.json" disk :=
      ⟨rfl, fun _ hentry => absurd (hentry.symm.trans hnone) (Option.some_ne_none _)⟩
    refine hserved (.of_inWorkingDirectory hpath (fun _ _ _ => rfl) fun _ _ _ h => ⟨h, rfl⟩) hready
      (Disk.read_name hready.here hpath.name rfl) ?_
    decide +kernel
  · have hstale : (HistoryFile.prepared "d/history.json" nested).findItself
        (HistoryFile.temporaryPath "d/history.json") = .ok (.file []) :=
      HistoryFile.eq_ok_iff_toOption.2 (by decide +kernel)
    have hfile : (HistoryFile.prepared "d/history.json" nested).findItself "d/history.json" =
        .ok (.file octets) := HistoryFile.eq_ok_iff_toOption.2 (by decide +kernel)
    have hfree : HistoryFile.Unobstructed "d/history.json" nested := by
      refine ⟨Disk.sound_of_entries (by decide), .of_file hstale, fun text hlink => ?_⟩
      cases Except.ok.inj (hfile.symm.trans hlink)
    refine hserved (.of_unobstructed (fun _ _ _ => rfl) fun _ _ _ h => ⟨h, rfl⟩) hfree
      (HistoryFile.eq_ok_iff_toOption.2 (by decide +kernel)) ?_
    decide +kernel

end Service

end HistoryExpansion
