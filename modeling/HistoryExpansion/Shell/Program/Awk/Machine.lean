import HistoryExpansion.Shell.Program.Awk.Cutting
import HistoryExpansion.Shell.Program.Awk.Reader
import HistoryExpansion.Shell.Program.Awk.Table
import HistoryExpansion.Shell.Program.Start

/-!
# The state of a running program

A program has variables and tables, a record with its fields, and files and commands that it reads
from or writes to. What it writes is kept until it is enough, until a command is run or until the
program ends.
-/

namespace HistoryExpansion.Shell.Awk

/-- What a name stands for. -/
inductive Cell where
  /-- A variable. -/
  | value (value : Value)
  /-- A table, by its number. -/
  | table (number : Nat)
  /-- What was never used; if it is used as a table, it is the one of a number. -/
  | unsettled (number : Nat)

/-- Something that records are read from. -/
structure Source where
  /-- What is left of what was read. -/
  rest : List Char
  /-- Whether more can be read from the input of the program. -/
  more : Bool := false

/-- What a channel leads to. -/
inductive ChannelKind where
  /-- The output of the program. -/
  | output
  /-- The messages of the program. -/
  | messages
  /-- A file that is written to, by the number of its stream. -/
  | file (stream : Nat)
  /-- A command that is written to. -/
  | consumer
  /-- A file or a command that is read from, with the status of the command. -/
  | source (source : Source) (status : Nat)

/-- Something that is open. -/
structure Channel where
  /-- Its name. -/
  name : String
  /-- What it leads to. -/
  kind : ChannelKind
  /-- What is kept of what was written to it, newest part first. -/
  kept : List (List Char) := []

/-- The state of a program. -/
structure Machine where
  /-- The names that are known everywhere. -/
  names : Std.HashMap String Cell := {}
  /-- The names of the function at hand. -/
  ownNames : List (String × Cell) := []
  /-- The tables. -/
  tables : Array Table := #[]
  /-- The record. -/
  record : List Char := []
  /-- Its fields, if they are known. -/
  fields : Option (Array Value) := none
  /-- What is open, latest first. -/
  channels : List Channel := [{ name := "/dev/stdout", kind := .output }]
  /-- What the records come from. -/
  main : Option Source := none
  /-- The number of the next argument. -/
  nextArgument : Nat := 1
  /-- Whether an argument was read from. -/
  hadInput : Bool := false
  /-- The status that the program ends with. -/
  status : Nat := 0
  /-- The rules that go on, by their numbers. -/
  running : List Nat := []
  /-- What random numbers come from. -/
  seed : Nat := 1
  /-- The seed that was set last. -/
  seedSet : Value := .number 0.0

/-- What a program needs all the time. -/
structure Job where
  /-- What starts other programs. -/
  launch : Launch
  /-- The name that it was called by. -/
  name : String
  /-- The variables of its process. -/
  environment : List (String × String)
  /-- Its rules and functions. -/
  program : Program := {}
  /-- The number of its lines. -/
  lines : Nat := 1

/-- How a statement can leave what it stands in. -/
inductive Leave where
  /-- A loop ends. -/
  | loop
  /-- A loop goes on. -/
  | round
  /-- The rules for this record end. -/
  | record
  /-- The file ends. -/
  | file
  /-- The function ends. -/
  | answer (value : Value)
  /-- The program ends, but for what it does behind all records. -/
  | stop
  /-- The program ends at once. -/
  | abort

/-- Something that a program does. -/
abbrev Run := ExceptT Leave (StateT Machine Effect)

/-! ## Names -/

/-- What a name stands for. -/
def cell? (name : String) : Run (Option Cell) := do
  let machine ← get
  return (machine.ownNames.lookup name).or machine.names[name]?

/-- Lets a name stand for something. -/
def setCell (name : String) (cell : Cell) : Run Unit :=
  modify fun machine =>
    if (machine.ownNames.lookup name).isSome then
      { machine with ownNames := rebind name cell machine.ownNames }
    else { machine with names := machine.names.insert name cell }

/-- The value of a variable that is not a part of the record. -/
def plainValue (name : String) : Run Value := do
  match ← cell? name with
  | some (.value value) => return value
  | _ => return .unset

/-- The text of a variable. -/
def plainText (name : String) : Run (List Char) := do
  return (← plainValue name).toText "%.6g".toList

/-- The format of numbers that become texts. -/
def convertFormat : Run (List Char) :=
  plainText "CONVFMT"

/-- The text of a value. -/
def textOfValue (value : Value) : Run (List Char) := do
  match value with
  | .number n => return numberText (← convertFormat) n
  | value => return value.toText []

/-- The number of the table that a name stands for. A name that was not used becomes a table. -/
def tableOf (name : String) : Run Nat := do
  match ← cell? name with
  | some (.table number) => return number
  | some (.unsettled number) =>
    setCell name (.table number)
    return number
  | _ =>
    let number := (← get).tables.size
    modify fun machine => { machine with tables := machine.tables.push {} }
    setCell name (.table number)
    return number

/-- A table. -/
def tableAt (number : Nat) : Run Table := do
  return ((← get).tables[number]?).getD {}

/-- Changes a table. -/
def setTable (number : Nat) (table : Table) : Run Unit :=
  modify fun machine => { machine with tables := machine.tables.setIfInBounds number table }

/-- Takes a table out of its place, so that a changed one can be put there. -/
def changeTable {α : Type} (number : Nat) (change : Table → α × Table) : Run α := do
  let table ← tableAt number
  setTable number {}
  let (result, table) := change table
  setTable number table
  return result

/-! ## Messages -/

/-- Ends the program with a message. -/
def failWith {α : Type} (job : Job) (message : String) : Run α := do
  complainFor job.name message
  modify fun machine => { machine with status := 2 }
  throw .abort

/-- Ends the program with a message that says which record is at hand. -/
def failAtRecord {α : Type} (job : Job) (message : String) : Run α := do
  let shown (name : String) : Run String := do
    return String.ofList (Utf8.decodeLossy ((← plainText name).map fun c => c.toNat.toUInt8))
  failWith job ("run time error: " ++ message ++ "\n\tFILENAME=\"" ++ (← shown "FILENAME") ++
    "\" FNR=" ++ (← shown "FNR") ++ " NR=" ++ (← shown "NR"))

/-- Ends the program with what is wrong with a text that it reads. -/
def failReading {α : Type} (job : Job) (fault : Fault) : Run α :=
  failWith job ("line " ++ toString job.lines ++ ": " ++ fault.message)

/-- What can be read, or the end of the program with the message that says why it cannot. -/
def needed {α : Type} (job : Job) : Except Fault α → Run α
  | .ok value => return value
  | .error fault => failReading job fault

/-! ## The record -/

/-- Sets the record. -/
def setRecord (record : List Char) : Run Unit :=
  modify fun machine => { machine with record := record, fields := none }

/-- The fields of the record. -/
def fieldsNow (job : Job) : Run (Array Value) := do
  match (← get).fields with
  | some fields => return fields
  | none =>
    let separator ← needed job (Separator.ofText (← plainText "FS"))
    let fields := ((separator.cut (← get).record).map Value.input).toArray
    modify fun machine => { machine with fields := some fields }
    return fields

/-- Sets the fields, from which the record follows. -/
def setFields (fields : Array Value) : Run Unit := do
  let between ← plainText "OFS"
  let texts ← fields.toList.mapM textOfValue
  modify fun machine =>
    { machine with record := between.intercalate texts, fields := some fields }

/-- The value of a field. -/
def fieldAt (job : Job) (index : Nat) : Run Value := do
  if index = 0 then return .input (← get).record
  return ((← fieldsNow job)[index - 1]?).getD .unset

/-- Fields up to a number. -/
def widened (fields : Array Value) (count : Nat) : Array Value :=
  fields ++ (List.replicate (count - fields.size) (Value.input [])).toArray

/-- Sets a field. -/
def setField (job : Job) (index : Nat) (value : Value) : Run Unit := do
  if index = 0 then setRecord (← textOfValue value)
  else
    let fields := widened (← fieldsNow job) index
    setFields (fields.setIfInBounds (index - 1) value)

/-- The value of a variable. -/
def variableValue (job : Job) (name : String) : Run Value := do
  if name = "NF" then return .ofNat (← fieldsNow job).size
  match ← cell? name with
  | some (.value value) => return value
  | _ => return .unset

/-- Sets a variable. -/
def setVariable (job : Job) (name : String) (value : Value) : Run Unit := do
  if name = "NF" then
    let count := (truncated value.toNumber).toNat
    let fields := widened (← fieldsNow job) count
    setFields (fields.take count)
  else
    if name = "FS" then
      let _ ← fieldsNow job
    setCell name (.value value)

/-! ## Commands -/

/-- Runs a command on an input, which is the program's own unless one is given. With `collects` its
output is collected. Gives the output and the status. -/
def runCommand (job : Job) (shell : String) (command : List Char) (input : Option Octets)
    (collects : Bool) : Effect (Octets × Nat) := do
  let before ← own
  let sink ← openStream (.sink [])
  if collects then attach 1 sink
  match input with
  | some octets => attach 0 (← openStream (.source octets false))
  | none => pure ()
  let text := String.ofList (Utf8.decodeLossy (command.map fun c => c.toNat.toUInt8))
  let run : Effect Nat := do
    try
      match ← job.launch [shell, "-c", text] job.environment with
      | .ok status => return status
      | .error error => return statusOfError error
    catch
      | .crashed signal => return 256 + signal
      | flow => throw flow
  let status ← run
  changeOwn fun _ => before
  return (← collected sink, status)

/-! ## Channels -/

/-- The octets of parts of a text, newest first. -/
def octetsOfParts (parts : List (List Char)) : Octets :=
  parts.reverse.flatMap fun chars => chars.map fun c => c.toNat.toUInt8

/-- Complains that something that was written could not be kept. -/
def refuseWriting {α : Type} (job : Job) (name : String) (error : DiskError) : Run α :=
  failWith job ("close failed on file \"" ++ name ++ "\" (" ++ error.reason ++ ")")

/-- Writes what is kept, but for what commands are to get. -/
def flushChannel (job : Job) (channel : Channel) : Run Channel := do
  let octets := octetsOfParts channel.kept
  let emptied := { channel with kept := [] }
  let result ←
    match channel.kind with
    | .output => write 1 octets
    | .messages => write 2 octets
    | .file stream => writeStream stream octets
    | _ => return channel
  match result with
  | .ok () => return emptied
  | .error error =>
    modify fun machine =>
      { machine with channels := machine.channels.filter (·.name ≠ channel.name) }
    refuseWriting job channel.name error

/-- Writes all that is kept, but for what commands are to get. -/
def flushAll (job : Job) : Run Unit := do
  let channels ← (← get).channels.mapM (flushChannel job)
  modify fun machine => { machine with channels := channels }

/-- Closes a channel. Gives the status of its command, if it leads to one. -/
def closeChannel (job : Job) (channel : Channel) : Run Nat := do
  match channel.kind with
  | .consumer =>
    let (_, status) ← runCommand job "/bin/sh" channel.name.toList
      (some (octetsOfParts channel.kept)) false
    return status
  | .source _ status => return status
  | _ =>
    let _ ← flushChannel job channel
    return 0

/-- Takes out the channel of a name that is written to or, with the flag, read from. -/
def takeChannel (name : String) (reading : Bool) : Run (Option Channel) := do
  let machine ← get
  let fits (channel : Channel) : Bool :=
    let isSource := match channel.kind with
      | .source _ _ => true
      | _ => false
    channel.name == name && isSource == reading
  match machine.channels.find? fits with
  | some channel =>
    set { machine with channels := machine.channels.filter fun channel => !fits channel }
    return some channel
  | none => return none

/-- Puts a channel before all others. -/
def putChannel (channel : Channel) : Run Unit :=
  modify fun machine => { machine with channels := channel :: machine.channels }

/-- The name of an output that other names stand for too. -/
def outputName (name : String) : String :=
  if name = "-" then "/dev/stdout" else name

/-- Opens a channel for writing. -/
def openChannel (job : Job) (destination : Destination) (name : String) : Run Channel := do
  if destination = .command then
    flushAll job
    return { name := name, kind := .consumer }
  else if name = "/dev/stdout" then return { name := name, kind := .output }
  else if name = "/dev/stderr" then return { name := name, kind := .messages }
  else
    let atEnd := destination == .fileEnd
    let path := String.ofList (Utf8.decodeLossy (name.toList.map fun c => c.toNat.toUInt8))
    match ← openForWriting path (!atEnd) atEnd false with
    | .ok stream => return { name := name, kind := .file stream }
    | .error error =>
      failWith job ("cannot open \"" ++ path ++ "\" for output (" ++ error.reason ++ ")")

/-- Writes a text. -/
def emit (job : Job) (target : Option (Destination × String)) (chars : List Char) : Run Unit := do
  match target with
  | none =>
    modify fun machine =>
      { machine with
        channels := machine.channels.map fun channel =>
          match channel.kind with
          | .output => { channel with kept := chars :: channel.kept }
          | _ => channel }
    if !(← get).channels.any (·.name == "/dev/stdout") then
      failWith job "write failure (Bad file descriptor)"
  | some (destination, name) =>
    let name := if destination = .command then name else outputName name
    let channel ←
      match ← takeChannel name false with
      | some channel => pure channel
      | none => openChannel job destination name
    let channel := { channel with kept := chars :: channel.kept }
    match channel.kind with
    | .messages => putChannel (← flushChannel job channel)
    | _ => putChannel channel

/-! ## Records -/

/-- The size of the blocks that an input is read in. -/
def blockSize : Nat := 262144

/-- Reads a record. -/
def readRecord (job : Job) : (fuel : Nat) → Source → Run (Option (List Char) × Source)
  | 0, source => return (none, source)
  | fuel + 1, source => do
    match ← needed job (cutRecord (← plainText "RS") source.rest), source.more with
    | some (record, rest, true), _ => return (some record, { source with rest := rest })
    | some (record, rest, false), false => return (some record, { source with rest := rest })
    | none, false => return (none, { source with rest := [] })
    | _, true =>
      let waiting ← (remaining 0 : Effect Octets)
      keepUnread 0 (waiting.drop blockSize)
      readRecord job fuel
        ⟨source.rest ++ charsIn (waiting.take blockSize), waiting.length > blockSize⟩

/-- The source that is the input of the program. -/
def standardSource : Source :=
  ⟨[], true⟩

/-- Opens a file for reading. -/
def openSource (job : Job) (name : String) : Run (Except DiskError Source) := do
  if name = "-" ∨ name = "/dev/stdin" then return .ok standardSource
  let path := String.ofList (Utf8.decodeLossy (name.toList.map fun c => c.toNat.toUInt8))
  match (← (diskHere : Effect Disk)).read path with
  | .ok octets => return .ok ⟨charsIn octets, false⟩
  | .error .isDirectory => failWith job ("read error (" ++ DiskError.isDirectory.reason ++ ")")
  | .error error => return .error error

/-- The name and the value of an argument that sets a variable. -/
def settingOf? (argument : List Char) : Option (String × Value) :=
  let name := argument.takeWhile isNamePart
  match argument.drop name.length with
  | '=' :: value =>
    if name.head?.any startsName then
      some (String.ofList name, .input (unescapedText (value.length + 1) value))
    else none
  | _ => none

/-- The argument of a number. -/
def argumentAt (index : Nat) : Run (List Char) := do
  let number ← tableOf "ARGV"
  let table ← tableAt number
  let key := Key.number index
  if table.holds key then textOfValue (table.get key).1 else return []

/-- Opens the next file that the arguments name. Those that set variables do so on the way. -/
def openNext (job : Job) : (fuel : Nat) → Run (Option Source)
  | 0 => return none
  | fuel + 1 => do
    let machine ← get
    let count := (truncated (← plainValue "ARGC").toNumber).toNat
    if machine.nextArgument ≥ count then
      if machine.hadInput then return none
      set { machine with hadInput := true }
      setCell "FILENAME" (.value (.text ['-']))
      return some standardSource
    set { machine with nextArgument := machine.nextArgument + 1 }
    let argument ← argumentAt machine.nextArgument
    if argument.isEmpty then openNext job fuel
    else
      match settingOf? argument with
      | some (name, value) =>
        setVariable job name value
        openNext job fuel
      | none =>
        modify fun machine => { machine with hadInput := true }
        setCell "FILENAME" (.value (.text argument))
        setCell "FNR" (.value (.ofNat 0))
        let name := String.ofList argument
        match ← openSource job name with
        | .ok source => return some source
        | .error error =>
          let path := String.ofList (Utf8.decodeLossy (argument.map fun c => c.toNat.toUInt8))
          failWith job ("cannot open \"" ++ path ++ "\" (" ++ error.reason ++ ")")

/-- Counts a record. -/
def countRecord : Run Unit := do
  for name in ["NR", "FNR"] do
    let count := (← plainValue name).toNumber
    setCell name (.value (.number (count + 1.0)))

/-- The next record of the files that the arguments name. -/
def nextRecord (job : Job) : (fuel : Nat) → Run (Option (List Char))
  | 0 => return none
  | fuel + 1 => do
    match (← get).main with
    | none =>
      match ← openNext job (fuel + 1) with
      | none => return none
      | some source =>
        modify fun machine => { machine with main := some source }
        nextRecord job fuel
    | some source =>
      let (record, source) ← readRecord job (fuel + 1) source
      match record with
      | some record =>
        modify fun machine => { machine with main := some source }
        countRecord
        return some record
      | none =>
        modify fun machine => { machine with main := none }
        nextRecord job fuel

/-- The most files, and the most blocks of a record. -/
def mostSteps : Nat := 100000

end HistoryExpansion.Shell.Awk
