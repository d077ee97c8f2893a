import HistoryExpansion.CommandLine.Program
import HistoryExpansion.Launch

/-!
# The program's outer layer

Reads what a run needs, hands it to `CommandLine.run`, and prints and writes what comes of it.
Commands are run by the library's own shell, on a disk that holds the two files of a run and the
directories of a small system; only the history file is written back.
-/

namespace HistoryExpansion.Main

/-- All octets that are left on a stream. -/
partial def readAll (stream : IO.FS.Stream) (before : ByteArray) : IO ByteArray := do
  let more ← stream.read 4096
  if more.isEmpty then return before else readAll stream (before ++ more)

/-- Puts what stands at a path on the machine's disk onto a disk. -/
def copyIn (path : String) (disk : Disk) : IO Disk := do
  try
    let content ← IO.FS.readBinFile path
    return (Disk.writeWithParents path content.toList disk).2
  catch
    | .noFileOrDirectory .. => return disk
    | .inappropriateType .. => return (Disk.makeDirectories path disk).2
    | error => throw error

/-- Writes the file at a path, and the directory above it if there is none. -/
def copyOut (path : String) (octets : Octets) : IO Unit := do
  match Path.parent? path with
  | none | some "" => pure ()
  | some parent => IO.FS.createDirAll parent
  IO.FS.writeBinFile path ⟨octets.toArray⟩

/-- A disk with the directories of a small system and a working directory. -/
def freshDisk (directory : String) : Disk :=
  let disk : Disk := { entries := Shell.systemEntries }
  { (Disk.makeDirectories directory disk).2 with here := Path.parts directory }

/-- The variables that are handed on to commands. The user's own directory is taken from them alone,
so one that only the system has on record is not known here. -/
def exported : IO (List (String × String)) := do
  let values ← ["HOME", "XDG_CONFIG_HOME", "PATH"].mapM fun name => do
    return (← IO.getEnv name).map fun value => (name, value)
  return values.filterMap id

/-- Carries an invocation out on the machine's disk. -/
def perform (words : List String) (invocation : CommandLine.Invocation) :
    IO CommandLine.Ending := do
  let exported ← exported
  let environment : Config.Environment :=
    ⟨exported.lookup "HOME", exported.lookup "XDG_CONFIG_HOME"⟩
  let disk := freshDisk (toString (← IO.currentDir))
  let disk ← copyIn (CommandLine.configPath environment invocation) disk
  let historyPath := CommandLine.historyPath? environment invocation disk
  let disk ← historyPath.elim (pure disk) fun path => copyIn path disk
  let input ← if invocation.command = .loop then readAll (← IO.getStdin) .empty else pure .empty
  let launch (launcher : Launcher) := launcher.launch exported
  let ending := CommandLine.run ⟨environment, input.toList, launch⟩ words disk
  if let some path := historyPath then
    if let .ok octets := ending.disk.read path then
      if (disk.read path).toOption ≠ some octets then copyOut path octets
  return ending

/-- How a command line ends. -/
def endingOf (words : List String) : IO CommandLine.Ending :=
  match CommandLine.Request.read words with
  | .ok (.invoke invocation) => perform words invocation
  | _ => pure (CommandLine.run ⟨⟨none, none⟩, [], fun launcher => launcher.launch []⟩ words
      (freshDisk "/"))

end HistoryExpansion.Main

/-- Runs the program with the words of its command line. -/
def main (words : List String) : IO UInt32 := do
  let ending ← HistoryExpansion.Main.endingOf words
  IO.print ending.output
  IO.eprint ending.errors
  return ending.code.toUInt32
