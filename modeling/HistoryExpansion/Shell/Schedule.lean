import HistoryExpansion.Shell.Run

/-!
# Processes that take turns

A command that is not waited for is a process beside the one that started it. Each process goes on
until it sleeps or waits; then the one whose time comes first has its turn, and of several the one
that has slept longest. `Schedule.run` gives turns until the first process has ended and no other
one keeps certain streams open.
-/

namespace HistoryExpansion.Shell

/-- A process that has not ended, between two turns. -/
structure Thread where
  /-- The process. -/
  process : Nat
  /-- The time of its next turn. -/
  time : Nat
  /-- Whether it waits for something else to happen, and does not sleep. -/
  waits : Bool := false
  /-- Whether it has not had a turn yet. -/
  isNew : Bool := false
  /-- Its state, of which what is shared is out of date. -/
  state : State
  /-- How it goes on. -/
  goOn : Bool → State → Turn (Except Flow Nat)

/-- The processes and what they share. -/
structure Schedule where
  /-- What they share. -/
  shared : Shared
  /-- The time. -/
  now : Nat := 0
  /-- Those whose turns are set, in their order. -/
  ready : List Thread := []
  /-- Those that wait for others. -/
  waiting : List Thread := []
  /-- How the first one ended, and the state it left. -/
  outcome : Option (Except Flow Nat × State) := none

namespace Schedule

/-- Puts a process behind all whose turns come no later. -/
def insert (thread : Thread) : List Thread → List Thread
  | [] => [thread]
  | other :: others =>
    if thread.time < other.time then thread :: other :: others else other :: insert thread others

/-- Sets the next turn of a process. -/
def enqueue (schedule : Schedule) (thread : Thread) : Schedule :=
  { schedule with ready := insert thread schedule.ready }

/-- Sets the next turns of all that wait: they come at once. -/
def wake (schedule : Schedule) : Schedule :=
  schedule.waiting.foldl
    (fun schedule thread =>
      let time := max thread.state.clock schedule.now
      schedule.enqueue { thread with time := time, state := { thread.state with clock := time } })
    { schedule with waiting := [] }

/-- The process of a number, if it has not ended. -/
def thread? (schedule : Schedule) (process : Nat) : Option Thread :=
  (schedule.ready ++ schedule.waiting).find? (·.process == process)

/-- Changes the process of a number. -/
def change (schedule : Schedule) (process : Nat) (change : Thread → Thread) : Schedule :=
  let changed := List.map fun (thread : Thread) =>
    if thread.process = process then change thread else thread
  { schedule with ready := changed schedule.ready, waiting := changed schedule.waiting }

/-- Takes a process out. -/
def drop (schedule : Schedule) (process : Nat) : Schedule :=
  let others := List.filter fun (thread : Thread) => thread.process ≠ process
  { schedule with ready := others schedule.ready, waiting := others schedule.waiting }

/-- A list of jobs in which one has ended. -/
def withEnded (jobs : List Job) (process time status : Nat) (signal : Option Nat)
    (heldUntil : Nat) : List Job :=
  jobs.map fun job =>
    if job.process = process ∧ job.ended.isNone then
      { job with
        ended := some (time, status), signal := signal
        heldUntil := if job.isCall then 0 else heldUntil }
    else job

/-- Ends a process by a signal. What it waited for goes on and keeps its streams, but if the process
is the call of a program, it is that itself. The first process has a last turn, in which it learns
of the signal. -/
def kill (schedule : Schedule) (process signal : Nat) (state : State) : Schedule × State :=
  let held (thread : Thread) : Nat := if thread.waits then 0 else thread.time
  match schedule.thread? process with
  | none =>
    (schedule,
      { state with
        jobs := withEnded state.jobs process state.clock (128 + signal) (some signal) 0 })
  | some thread =>
    let others := schedule.drop process
    if process = firstProcess then
      let left : Job :=
        { process := 0, streams := thread.state.own.descriptors.map Prod.snd, isCall := false
          ended := some (state.clock, 128 + signal), heldUntil := held thread }
      let last : Thread :=
        { thread with
          time := state.clock, waits := false
          state := { thread.state with clock := state.clock, ending := some signal } }
      (others.enqueue last, { state with jobs := left :: state.jobs })
    else
      (others,
        { state with
          jobs := withEnded state.jobs process state.clock (128 + signal) (some signal)
            (held thread) })

/-- Whether a signal is one that asks from the keyboard to end. -/
def isFromKeyboard (signal : Nat) : Bool :=
  signal = 2 || signal = 3

/-- Hands a signal to a process. One that is not waited for is deaf to the keyboard once it has had
a turn. -/
def deliver (schedule : Schedule) (process signal : Nat) (state : State) : Schedule × State :=
  let thread? := schedule.thread? process
  let trap? := thread?.bind fun thread => thread.state.own.traps.lookup (signalName signal)
  let isExtended := thread?.any (·.state.own.dialect.isExtended)
  let isDeaf : Bool :=
    isFromKeyboard signal && process ≠ firstProcess && thread?.any (!·.isNew) &&
      (!isExtended || trap?.isNone)
  if isDeaf then (schedule, state)
  else
    match if signal = 9 then none else trap?, reactionOf isExtended signal with
    | some "", _ => (schedule, state)
    | some _, _ =>
      let received (thread : Thread) : Thread :=
        { thread with
          state := { thread.state with received := thread.state.received ++ [signal] } }
      (schedule.change process received, state)
    | none, .ends => schedule.kill process signal state
    | none, _ => (schedule, state)

/-- Notes how a process has ended. One that would go on without an end has not. -/
def finish (schedule : Schedule) (process : Nat) (result : Except Flow Nat) (state : State) :
    Schedule :=
  if process = firstProcess then
    { schedule with shared := state.toShared, outcome := some (result, state) }
  else
    let ending : Option (Nat × Option Nat) :=
      match result with
      | .ok status => some (status, none)
      | .error (.killed _ signal) => some (128 + signal, some signal)
      | .error (.crashed signal) => some (128 + signal, some signal)
      | .error .expired => some (128 + 15, some 15)
      | .error .endless => none
      | .error _ => some (state.own.status, none)
    match ending with
    | none => { schedule with shared := state.toShared }
    | some (status, signal) =>
      let jobs := withEnded state.jobs process state.clock status signal 0
      { schedule with shared := { state.toShared with jobs := jobs } }

/-- Goes on with a process up to the end of its turn. -/
def proceed (body : Command → Effect Nat) (process : Nat) (waited : Bool) :
    Turn (Except Flow Nat) → Schedule → Schedule
  | .done result state, schedule => (schedule.finish process result state).wake
  | .sleep state goOn, schedule =>
    let thread : Thread :=
      { process := process, time := state.clock, state := state, goOn := fun _ => goOn }
    ({ schedule with shared := state.toShared }.enqueue thread).wake
  | .await state goOn, schedule =>
    let thread : Thread :=
      { process := process, time := state.clock, waits := true, state := state, goOn := goOn }
    let schedule := { schedule with shared := state.toShared }
    let schedule := if waited then schedule else schedule.wake
    { schedule with waiting := schedule.waiting ++ [thread] }
  | .fork child command state goOn, schedule =>
    let own := { state.own with traps := state.own.traps.filter (·.2 = "") }
    let thread : Thread :=
      { process := child, time := state.clock, isNew := true
        state := { state with process := child, received := [], own := own }
        goOn := fun _ => body command }
    proceed body process waited (goOn state) (schedule.enqueue thread)
  | .send target signal state goOn, schedule =>
    let (schedule, state) := schedule.deliver target signal state
    proceed body process waited (goOn state) schedule

/-- Whether a process still keeps one of some streams open. -/
def keeps (schedule : Schedule) (streams : List Nat) : Bool :=
  schedule.shared.jobs.any fun job =>
    job.ended.isNone && job.streams.any streams.contains && (schedule.thread? job.process).isSome

/-- Whether all is over: the first process has ended, and no other one keeps one of some streams
open. -/
def isOver (schedule : Schedule) (streams : List Nat) : Bool :=
  match schedule.outcome with
  | none => false
  | some (.error .expired, _) => true
  | some (.error .endless, _) => true
  | some _ => !schedule.keeps streams

/-- Gives a process its turn. -/
def give (body : Command → Effect Nat) (schedule : Schedule) (thread : Thread) (turned : Bool) :
    Schedule :=
  let time := max schedule.now thread.time
  let state := { thread.state with toShared := schedule.shared }
  proceed body thread.process (thread.waits && turned) (thread.goOn turned state)
    { schedule with now := time }

/-- Gives turns until all is over, but at most so many. -/
def run (body : Command → Effect Nat) (streams : List Nat) : (turns : Nat) → Schedule → Schedule
  | 0, schedule => schedule
  | turns + 1, schedule =>
    if schedule.isOver streams then schedule
    else
      match schedule.ready, schedule.waiting with
      | thread :: ready, _ =>
        run body streams turns (give body { schedule with ready := ready } thread true)
      | [], thread :: waiting =>
        run body streams turns (give body { schedule with waiting := waiting } thread false)
      | [], [] => schedule

/-- The time at which nobody keeps one of some streams open any more, or nothing if that never comes
to be. -/
def closing? (schedule : Schedule) (streams : List Nat) : Option Nat :=
  let keepers := schedule.shared.jobs.filter fun job => job.streams.any streams.contains
  if keepers.any (·.ended.isNone) then none
  else
    let times := keepers.map fun job =>
      max job.heldUntil (((job.ended).map Prod.fst).getD 0)
    let last := match schedule.outcome with
      | some (_, state) => state.clock
      | none => schedule.now
    some (times.foldl max last)

end Schedule

/-- A command without the marks before it that turn its success into failure. -/
def Command.positive : Command → Command
  | .negated command => command.positive
  | command => command

/-- Runs a command as a process of its own that is not waited for. The extended dialect does not
heed there that its success is to be failure. -/
def runAlone (levels : Nat) (command : Command) : Effect Nat := do
  let below := interpreter levels
  let empty ← openStream .void
  toOwnEnd below do
    attach 0 empty
    below.run false (if ← isExtended then command.positive else command)

/-- Runs an effect as the first process, and gives what becomes of it and of the processes that it
starts. -/
def Schedule.ofEffect (levels : Nat) (streams : List Nat) (effect : Effect Nat) (state : State) :
    Schedule :=
  let first : Thread :=
    { process := firstProcess, time := state.clock, state := state, goOn := fun _ => effect }
  run (runAlone levels) streams mostTurns { shared := state.toShared, ready := [first] }

end HistoryExpansion.Shell
