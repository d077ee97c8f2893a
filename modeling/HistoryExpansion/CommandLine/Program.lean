import HistoryExpansion.CommandLine.Invocation
import HistoryExpansion.CommandLine.Listing
import HistoryExpansion.CommandLine.Report
import HistoryExpansion.Config.Load
import HistoryExpansion.Repl
import HistoryExpansion.Store

/-!
# The program

A run of the program on a disk. The configuration is loaded first, from the file that is named,
which must be there, or from the usual place, where none need be. Then the store is opened and the
command of the invocation is carried out. Only the loop runs commands and writes the history;
expanding and listing leave the disk as it is.
-/

namespace HistoryExpansion.CommandLine

/-- What a run of the program is surrounded by. -/
structure Surroundings where
  /-- The directories of the user. -/
  environment : Config.Environment
  /-- The octets on the standard input. -/
  input : Octets
  /-- How a command is run on a disk. What is said of runs holds for every way to run commands; the
  shell of the library is one of them. -/
  launch : (launcher : Launcher) → (command : String) → Action Disk Output

/-- How a run of the program ended. -/
structure Ending where
  /-- The exit code. -/
  code : Nat
  /-- The text on the standard output. -/
  output : String
  /-- The text on the standard error, without the lines of a log of the program's events. These are
  written there too, if one is kept, and say nothing that a run goes by. -/
  errors : String
  /-- The disk at the end. -/
  disk : Disk

namespace Ending

/-- The end of a run that went well. -/
def ofOutput (disk : Disk) (output : String) : Ending :=
  ⟨0, output, "", disk⟩

/-- The end of a run that failed. -/
def ofReport (disk : Disk) (report : Report) : Ending :=
  ⟨1, "", report.render, disk⟩

/-- The end of a run whose command line is refused. -/
def ofUsageError (disk : Disk) (error : UsageError) : Ending :=
  ⟨2, "", "error: " ++ error.message ++ "\n", disk⟩

end Ending

/-- The version of the program. -/
def versionLine : String := "bang-history 0.1.0\n"

/-- The help on the program as a whole. It is shown as well where help on one of its commands is
asked for, whose own options it does not list. -/
def helpText : String :=
  "Re-run earlier commands with !!, !n, !prefix and !?substring\n\n" ++
  "Usage: bang-history [OPTIONS] [COMMAND]\n\n" ++
  "Commands:\n" ++
  "  repl     Read commands from stdin, expanding bang expressions - " ++
    "same as running without arguments\n" ++
  "  expand   Print the command a bang expression resolves to, without running it\n" ++
  "  history  Show a session's command history\n" ++
  "  help     Print this message or the help of the given subcommand(s)\n\n" ++
  "Options:\n" ++
  "  -c, --config <CONFIG>    Path to configuration file\n" ++
  "  -s, --session <SESSION>  Session whose history is used [default: local]\n" ++
  "  -h, --help               Print help\n" ++
  "  -V, --version            Print version\n\n" ++
  "EXAMPLES:\n" ++
  "    # Start an interactive session (default)\n" ++
  "    bang-history\n\n" ++
  "    # Resolve an expression against persisted history without running it\n" ++
  "    bang-history --session build expand '!?cargo' --history-file ./history.json\n\n" ++
  "    # Show the last 20 commands of a session\n" ++
  "    bang-history --session build history --limit 20 --history-file ./history.json\n"

/-- The path of the configuration file: the one that is named, else the usual one. -/
def configPath (environment : Config.Environment) (invocation : Invocation) : String :=
  invocation.configPath.getD (Config.usualPath environment)

/-- The configuration of a run, or the report that none can be loaded. Only a file that is not named
may be missing. -/
def loadConfig (environment : Config.Environment) (invocation : Invocation) (disk : Disk) :
    Except Report Config :=
  let path := configPath environment invocation
  if invocation.configPath.isSome ∨ disk.holds path then
    (Config.load disk path).mapError (.because ("Failed to load config from " ++ path))
  else .ok {}

/-- The engine of a configuration. -/
def engine (surroundings : Surroundings) (config : Config) : Engine Workspace where
  trigger := config.trigger
  backend := Workspace.backend fun _ => surroundings.launch config.launcher

/-- The path of the history file that an invocation names. -/
def Invocation.historyPath (invocation : Invocation) : Option String :=
  match invocation.command with
  | .loop => none
  | .expand _ path => path
  | .list _ path => path

/-- The path of the history file of a run: the one that is named, else that of the configuration. -/
def historyPath? (environment : Config.Environment) (invocation : Invocation) (disk : Disk) :
    Option String :=
  match loadConfig environment invocation disk with
  | .error _ => none
  | .ok config => invocation.historyPath <|> config.historyPath

/-- Opens the store of a run: in the file that is named, else in the file of the configuration. -/
def openStore (config : Config) (named : Option String) (disk : Disk) : Except Failure Store :=
  Store.openAt disk (named <|> config.historyPath) config.window.toNat

/-- Reads commands line by line and handles them. -/
def runLoop (surroundings : Surroundings) (config : Config) (session : String) (disk : Disk) :
    Ending :=
  match openStore config none disk with
  | .error failure => .ofReport disk (.ofFailure failure)
  | .ok store =>
    let run := Repl.run (engine surroundings config) session surroundings.input ⟨store, disk⟩
    match run.stopped with
    | none => ⟨0, run.output, run.errors, run.world.disk⟩
    | some failure =>
      ⟨1, run.output, run.errors ++ (Report.ofFailure failure).render, run.world.disk⟩

/-- Prints the command that a text expands to; a text that is no expansion is printed unchanged. -/
def runExpand (surroundings : Surroundings) (config : Config) (session text : String)
    (historyPath : Option String) (disk : Disk) : Ending :=
  match openStore config historyPath disk with
  | .error failure => .ofReport disk (.ofFailure failure)
  | .ok store =>
    match (engine surroundings config).expand session text ⟨store, disk⟩ with
    | (.error failure, workspace) => .ofReport workspace.disk (.ofFailure failure)
    | (.ok command, workspace) => .ofOutput workspace.disk (command.getD text ++ "\n")

/-- Lists the newest commands of a session. -/
def runList (surroundings : Surroundings) (config : Config) (session : String) (limit : UInt64)
    (historyPath : Option String) (disk : Disk) : Ending :=
  match openStore config historyPath disk with
  | .error failure => .ofReport disk (.ofFailure failure)
  | .ok store =>
    match (engine surroundings config).history session ⟨store, disk⟩ with
    | (.error failure, workspace) => .ofReport workspace.disk (.ofFailure failure)
    | (.ok record, workspace) =>
      .ofOutput workspace.disk (Listing.render session limit.toNat record)

/-- Carries the command of an invocation out under a configuration, from which its engine is
built. -/
def carryOut (surroundings : Surroundings) (config : Config) (invocation : Invocation)
    (disk : Disk) : Ending :=
  match invocation.command with
  | .loop => runLoop surroundings config invocation.session disk
  | .expand text historyPath =>
    runExpand surroundings config invocation.session text historyPath disk
  | .list limit historyPath =>
    runList surroundings config invocation.session limit historyPath disk

/-- Loads the configuration of an invocation and carries its command out. -/
def invoke (surroundings : Surroundings) (invocation : Invocation) (disk : Disk) : Ending :=
  match loadConfig surroundings.environment invocation disk with
  | .error report => .ofReport disk report
  | .ok config => carryOut surroundings config invocation disk

/-- Runs the program with the words of a command line. -/
def run (surroundings : Surroundings) (words : List String) (disk : Disk) : Ending :=
  match Request.read words with
  | .error error => .ofUsageError disk error
  | .ok .version => .ofOutput disk versionLine
  | .ok .help => .ofOutput disk helpText
  | .ok (.invoke invocation) => invoke surroundings invocation disk

end HistoryExpansion.CommandLine
