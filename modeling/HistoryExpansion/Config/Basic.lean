import HistoryExpansion.Failure
import HistoryExpansion.Text.Blank

/-!
# Configurations

What can be set: the window of each record, the trigger, how commands are run and where the history
is kept. `Config.defect?` finds the first value that is refused.
-/

namespace HistoryExpansion

/-- How commands are run. -/
structure Launcher where
  /-- The program that runs them. -/
  shell : String := "sh"
  /-- Its argument before the text of a command. -/
  argument : String := "-c"
  /-- The number of seconds that a command may take; zero sets no limit. -/
  limit : UInt64 := 30
  deriving DecidableEq, Repr

/-- The values that can be set. -/
structure Config where
  /-- The number of commands that a record may keep. -/
  window : UInt64 := 500
  /-- What a message must start with. -/
  trigger : String := "!"
  /-- How commands are run. -/
  launcher : Launcher := {}
  /-- The file that the history is kept in; in memory alone if there is none. -/
  historyPath : Option String := none
  deriving DecidableEq, Repr

namespace Config

/-- A value that is refused. -/
inductive Defect where
  /-- A record could not keep a single command. -/
  | noWindow
  /-- There is no trigger. -/
  | emptyTrigger
  /-- The trigger holds a blank. Messages are trimmed before the trigger is looked for. -/
  | blankInTrigger
  /-- There is no program to run commands. -/
  | noShell
  deriving DecidableEq, Repr

/-- The name of the value that is refused. -/
def Defect.field : Defect → String
  | noWindow => "history"
  | emptyTrigger => "bang"
  | blankInTrigger => "bang"
  | noShell => "executor.shell"

/-- The reason why it is refused. -/
def Defect.reason : Defect → String
  | noWindow => "Must keep at least one command"
  | emptyTrigger => "Trigger prefix cannot be empty"
  | blankInTrigger => "Trigger prefix cannot contain whitespace"
  | noShell => "Shell program cannot be empty"

/-- The failure that reports a defect. -/
def Defect.failure (defect : Defect) : Failure :=
  .configInvalid defect.field defect.reason

/-- The first value that is refused. -/
def defect? (config : Config) : Option Defect :=
  if config.window = 0 then some .noWindow
  else if config.trigger = "" then some .emptyTrigger
  else if config.trigger.toList.any Text.isBlank then some .blankInTrigger
  else if (Text.trimmed config.launcher.shell.toList).isEmpty then some .noShell
  else none

/-- Fails with the first value that is refused. -/
def validate (config : Config) : Except Failure Unit :=
  match config.defect? with
  | some defect => .error defect.failure
  | none => .ok ()

end Config

end HistoryExpansion
