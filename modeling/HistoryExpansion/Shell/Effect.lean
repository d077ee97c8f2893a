import HistoryExpansion.Number
import HistoryExpansion.Shell.State

/-!
# What shells do

An effect is something that a shell does: it changes a state and gives a value, or leaves what it
stands in by a `Flow`. A process does not always go on at once. It may sleep, or wait for others,
and then others have their turn: `Turn` says how far it has come and how it goes on. What follows
are the single effects that all others are made of.
-/

namespace HistoryExpansion.Shell

/-- How a command can leave what it stands in. -/
inductive Flow where
  /-- The shell ends. -/
  | exit (status : Nat)
  /-- A function ends. -/
  | leave (status : Nat)
  /-- So many loops end. -/
  | break (levels : Nat)
  /-- So many loops go on, all but the last of them ending. -/
  | resume (levels : Nat)
  /-- The command is in error, which ends the shell unless it is an ordinary one of its own. -/
  | failed (status : Nat)
  /-- A process is ended by a signal. -/
  | killed (process signal : Nat)
  /-- The shell that runs is ended by a signal, be it one of its own or not. -/
  | crashed (signal : Nat)
  /-- Everything is stopped, for it would only wait. -/
  | expired
  /-- Everything is stopped in the midst of work that goes on without an end. -/
  | endless

/-! ## Turns -/

/-- How far a process has come when it lets others have their turn. -/
inductive Turn (α : Type) where
  /-- It is done. -/
  | done (value : α) (state : State)
  /-- It goes on at the time of its clock. -/
  | sleep (state : State) (goOn : State → Turn α)
  /-- It goes on when another process has had its turn; the flag tells whether one has. -/
  | await (state : State) (goOn : Bool → State → Turn α)
  /-- It starts a command as a process that it does not wait for, and goes on at once. -/
  | fork (process : Nat) (command : Command) (state : State) (goOn : State → Turn α)
  /-- It sends another process a signal, and goes on at once. -/
  | send (process signal : Nat) (state : State) (goOn : State → Turn α)

namespace Turn

/-- Goes on with something else behind what is under way. -/
def bind {α β : Type} (first : Turn α) (next : α → State → Turn β) : Turn β :=
  match first with
  | done value state => next value state
  | sleep state goOn => sleep state fun state => (goOn state).bind next
  | await state goOn => await state fun turned state => (goOn turned state).bind next
  | fork process command state goOn => fork process command state fun state =>
      (goOn state).bind next
  | send process signal state goOn => send process signal state fun state =>
      (goOn state).bind next

end Turn

/-- Something that is done in turns from a state on. -/
def Routine (α : Type) : Type := State → Turn α

namespace Routine

/-- Does one thing after another. -/
@[always_inline, inline]
def bind {α β : Type} (first : Routine α) (next : α → Routine β) : Routine β := fun state =>
  match first state with
  | .done value state => next value state
  | turn => turn.bind next

@[always_inline]
instance : Monad Routine where
  pure value := fun state => .done value state
  bind := Routine.bind

@[always_inline]
instance : MonadStateOf State Routine where
  get := fun state => .done state state
  set state := fun _ => .done () state
  modifyGet change := fun state =>
    let (value, state) := change state
    .done value state

end Routine

/-- Something that a shell does. -/
abbrev Effect := ExceptT Flow Routine

/-- An effect that is done in turns. -/
def Effect.ofTurn {α : Type} (turn : State → Turn (Except Flow α)) : Effect α := turn

/-- Leaves all that is under way if a signal has come in that ends the first process. -/
def heedEnding : Effect Unit := do
  let state ← get
  match state.ending with
  | some signal =>
    set { state with ending := none }
    throw (.killed firstProcess signal)
  | none => return

/-- Sleeps until a time. -/
def sleepUntil (time : Nat) : Effect Unit := do
  Effect.ofTurn fun state =>
    .sleep { state with clock := time } fun state => .done (.ok ()) state
  heedEnding

/-- Waits until another process has had its turn, and tells whether one has. -/
def awaitTurn : Effect Bool := do
  let turned ← Effect.ofTurn fun state =>
    .await state fun turned state => .done (.ok turned) state
  heedEnding
  return turned

/-- Starts a command as a process that is not waited for. -/
def fork (process : Nat) (command : Command) : Effect Unit :=
  Effect.ofTurn fun state =>
    .fork process command state fun state => .done (.ok ()) state

/-- Sends another process a signal. -/
def send (process signal : Nat) : Effect Unit :=
  Effect.ofTurn fun state => .send process signal state fun state => .done (.ok ()) state

/-! ## States -/

/-- What is the shell's own. -/
def own : Effect Own := do
  return (← get).own

/-- Changes what is the shell's own. -/
def changeOwn (change : Own → Own) : Effect Unit :=
  modify fun state => { state with own := change state.own }

/-- The disk, seen from the shell's directory. -/
def diskHere : Effect Disk := do
  let state ← get
  return { state.disk with here := state.own.here, mask := state.own.mask, now := state.clock }

/-- Changes the disk from the shell's directory. -/
def changeDisk (change : Disk.Change) : Effect (Except DiskError Unit) := do
  let (result, disk) := change (← diskHere)
  modify fun state => { state with disk := { disk with here := state.disk.here } }
  return result

/-! ## Variables -/

/-- What a variable is bound to. -/
def binding? (name : String) : Effect (Option Binding) := do
  return (← own).bindings.lookup name

/-- The value of a variable. One that refers to another has the value of that. -/
def value? (name : String) : Effect (Option String) := do
  match ← binding? name with
  | some { refers := true, value := some other, .. } =>
    return (← binding? other).bind Binding.value
  | binding => return binding.bind Binding.value

/-- Pairs with the value at a key replaced or added. -/
def rebind {κ α : Type} [DecidableEq κ] (key : κ) (value : α) (pairs : List (κ × α)) :
    List (κ × α) :=
  (key, value) :: pairs.filter fun pair => pair.1 ≠ key

/-- Binds a variable. Where programs are is forgotten when the variable changes that tells where
they are looked for. -/
def setBinding (name : String) (binding : Binding) : Effect Unit :=
  changeOwn fun own =>
    { own with
      bindings := rebind name binding own.bindings
      remembered := if name = "PATH" then [] else own.remembered }

/-- The place of a name in the tables of a shell, which go by the octets of the name. -/
def namePlace (dialect : Dialect) (name : String) : Nat :=
  match dialect with
  | .plain =>
    let octets := (Utf8.ofString name).map (·.toNat)
    (octets.headD 0 * 16 + sumOf octets) % 39
  | .extended => Items.bucketOf name

/-- The number of places for variables that are set for one command only. -/
def temporaryPlaces : Nat := 4

/-- The variables that commands get, in the order of their places. In the extended dialect those
that are set for one command only come first. -/
def environment : Effect (List (String × String)) := do
  let own ← own
  let exported := own.bindings.filterMap fun (name, binding) =>
    if binding.exported then binding.value.map fun value => (name, value) else none
  let before (a b : String × String) : Bool :=
    namePlace own.dialect a.1 ≤ namePlace own.dialect b.1
  let ordered := exported.mergeSort before
  match own.dialect with
  | .plain => return ordered
  | .extended =>
    let place (name : String) : Nat := Items.bucketOf name % temporaryPlaces
    let first := (own.temporary.mergeSort fun a b => place a ≤ place b).filterMap fun name =>
      (exported.lookup name).map fun value => (name, value)
    return first ++ ordered.filter fun (name, _) => !own.temporary.contains name

/-! ## Streams -/

/-- Opens a stream and gives its number. -/
def openStream (stream : Stream) : Effect Nat := do
  let state ← get
  set { state with streams := state.streams.push stream }
  return state.streams.size

/-- The stream of a descriptor, with its number. -/
def stream? (descriptor : Nat) : Effect (Option (Nat × Stream)) := do
  let state ← get
  match state.own.descriptors.lookup descriptor with
  | none => return none
  | some number => return state.streams[number]?.map fun stream => (number, stream)

/-- Replaces a stream. -/
def setStream (number : Nat) (stream : Stream) : Effect Unit :=
  modify fun state => { state with streams := state.streams.setIfInBounds number stream }

/-- What a sink was given so far. -/
def collected (number : Nat) : Effect Octets := do
  match (← get).streams[number]? with
  | some (.sink parts) => return parts.reverse.flatten
  | _ => return []

/-- The content of the file at a place. -/
def contentAt (disk : Disk) (place : Location) : Octets :=
  ((disk.entry? place).bind Entry.content?).getD []

/-- Octets with others written over them from a place on. -/
def overwrite (content : Octets) (offset : Nat) (octets : Octets) : Octets :=
  let front := content.take offset
  front ++ List.replicate (offset - front.length) 0 ++ octets ++
    content.drop (offset + octets.length)

/-- Writes octets to a stream. -/
def writeStream (number : Nat) (octets : Octets) : Effect (Except DiskError Unit) := do
  if octets.isEmpty then return .ok ()
  match (← get).streams[number]? with
  | some (.sink parts) =>
    setStream number (.sink (octets :: parts))
    return .ok ()
  | some (.file place offset atEnd readable true) =>
    let state ← get
    let content := contentAt state.disk place
    let offset := if atEnd then content.length else offset
    let content := overwrite content offset octets
    match state.disk.refuses (.write place content) with
    | some refusal => return .error refusal.error
    | none =>
      let disk := { state.disk with now := state.clock, mask := state.own.mask }.fill place content
      set { state with disk := disk }
      setStream number (.file place (offset + octets.length) atEnd readable true)
      return .ok ()
  | some .void => return .ok ()
  | some .full => return .error .noSpace
  | _ => return .error .badDescriptor

/-- Writes octets to a descriptor. -/
def write (descriptor : Nat) (octets : Octets) : Effect (Except DiskError Unit) := do
  match ← stream? descriptor with
  | some (number, _) => writeStream number octets
  | none => return if octets.isEmpty then .ok () else .error .badDescriptor

/-- Writes a text to a descriptor. -/
def writeText (descriptor : Nat) (text : String) : Effect Unit := do
  let _ ← write descriptor (Utf8.ofString text)

/-- The octets that are left to be read from a descriptor. -/
def remaining (descriptor : Nat) : Effect Octets := do
  match ← stream? descriptor with
  | some (_, .source rest _) => return rest
  | some (_, .file place offset _ true _) => return (contentAt (← get).disk place).drop offset
  | _ => return []

/-- Leaves so many octets to be read from a descriptor. -/
def keepUnread (descriptor : Nat) (rest : Octets) : Effect Unit := do
  match ← stream? descriptor with
  | some (number, .source _ endless) =>
    if endless ∧ rest.isEmpty then throw .endless
    setStream number (.source rest endless)
  | some (number, .file place _ atEnd true writable) =>
    let size := (contentAt (← get).disk place).length
    setStream number (.file place (size - rest.length) atEnd true writable)
  | _ => return

/-- Whether the shell has the extended dialect. -/
def isExtended : Effect Bool := do
  return (← own).dialect.isExtended

/-- The start of the shell's messages. -/
def lead : Effect String := do
  let own ← own
  let caller := (own.caller.map (· ++ ": ")).getD ""
  let mark := if own.dialect.isExtended then ": line " else ": "
  return own.voice.getD own.name ++ mark ++ toString own.line ++ ": " ++ caller

/-- Writes a message of the shell. -/
def complain (message : String) : Effect Unit := do
  writeText 2 ((← lead) ++ message ++ "\n")

/-- Runs something as a command of the shell with a name. -/
def calledAs {α : Type} (name : String) (body : Effect α) : Effect α := do
  let before := (← own).caller
  changeOwn fun own => { own with caller := some name }
  let result ←
    try body
    catch flow =>
      changeOwn fun own => { own with caller := before }
      throw flow
  changeOwn fun own => { own with caller := before }
  return result

/-- Writes a message and leaves the command in error. -/
def fail {α : Type} (message : String) (status : Nat := 2) : Effect α := do
  complain message
  throw (.failed status)

/-- Writes a message, which each dialect words its own way. -/
def complainAs (plain extended : String) : Effect Unit := do
  complain (if ← isExtended then extended else plain)

/-- Writes a message, which each dialect words its own way, and leaves the command in error. In the
extended dialect it has a status of its own. -/
def failAs {α : Type} (plain extended : String) (status : Nat := 1) : Effect α := do
  if ← isExtended then fail extended status else fail plain

/-! ## Time -/

/-- Lets time pass, in which others have their turns. -/
def pause (duration : Nat) : Effect Unit := do
  let state ← get
  let time := state.clock + duration
  match state.deadline with
  | some deadline =>
    if time ≥ deadline then
      if deadline > state.clock then sleepUntil deadline
      throw .expired
  | none => pure ()
  if duration ≠ 0 then sleepUntil time

/-- Lets the others have their turns that were to have one by now. -/
def giveWay : Effect Unit := do
  let state ← get
  if !state.jobs.isEmpty then sleepUntil state.clock

/-- Waits until something else has happened. -/
def awaitOthers : Effect Unit := do
  let turned ← awaitTurn
  let state ← get
  if state.deadline.any (· ≤ state.clock) then throw .expired
  if !turned then throw .endless

/-- The most turns that are waited for. -/
def mostTurns : Nat := 1000000

/-- Waits until no process keeps a stream open any more. -/
def awaitClosed (number : Nat) : (turns : Nat) → Effect Unit
  | 0 => throw .endless
  | turns + 1 => do
    let state ← get
    let keepers := state.jobs.filter (·.streams.contains number)
    if keepers.any (·.ended.isNone) then
      awaitOthers
      awaitClosed number turns
    else pause ((keepers.map Job.heldUntil).foldl max 0 - state.clock)

/-! ## Assignments -/

/-- The number of octets that a value may grow to. A command that goes beyond it is stopped, as one
that never ends. -/
def longestValue : Nat := 2 ^ 22

/-- The name of the variable that is meant by a name: one that refers to another stands for that. -/
def meant (name : String) : Effect String := do
  match ← binding? name with
  | some { refers := true, value := some other, .. } => return other
  | _ => return name

/-- Fails if a variable keeps its value. -/
def checkChangeable (name : String) : Effect Unit := do
  if ((← binding? name).map Binding.constant).getD false then
    failAs (name ++ ": is read only") (name ++ ": readonly variable")

/-- Gives a variable a value. -/
def assign (name value : String) : Effect Unit := do
  if value.utf8ByteSize > longestValue then throw .endless
  let name ← meant name
  checkChangeable name
  let old := (← binding? name).getD {}
  let value := match old.capital with
    | some true => value.toUpper
    | some false => value.toLower
    | none => value
  let exported := old.exported || (← own).options.exportsAll
  setBinding name { old.withValue value with exported := exported }

/-- Gives a variable items. -/
def assignItems (name : String) (items : Items) : Effect Unit := do
  let name ← meant name
  checkChangeable name
  setBinding name (((← binding? name).getD {}).withItems items)

end HistoryExpansion.Shell
