import HistoryExpansion.Config.Document
import HistoryExpansion.Disk.Text

/-!
# Loading a configuration

A configuration is read from a file, and only one without a defect is ever given.
-/

namespace HistoryExpansion.Config

/-- The configuration in the file at a path. -/
def load (disk : Disk) (path : String) : Except Failure Config :=
  if disk.holds path then
    match disk.readText path with
    | .error failure => .error failure
    | .ok text =>
      match parse text with
      | none => .error .yaml
      | some config => config.validate.map fun _ => config
  else .error (.configMissing path)

/-- The directories that a user's files are looked for in. -/
structure Environment where
  /-- The user's own directory, wherever it is known from: the surroundings may name it, and a
  system may have it on record for users whose surroundings do not. -/
  home : Option String
  /-- The directory of the user's configuration files, if it is set. -/
  configHome : Option String
  deriving DecidableEq, Repr

/-- A path below a directory. -/
def joinPath (directory name : String) : String :=
  if directory = "" then name
  else if Path.endsInSlash directory then directory ++ name
  else directory ++ "/" ++ name

/-- The path of the configuration file when none is named. A directory for configuration files
counts only if its path starts at the root. Where not even the user's own directory is known, the
file is looked for from the working directory on. -/
def usualPath (environment : Environment) : String :=
  let directory :=
    match environment.configHome.filter Path.isAbsolute with
    | some directory => directory
    | none =>
      match environment.home.filter (· ≠ "") with
      | some home => joinPath home ".config"
      | none => "."
  joinPath (joinPath directory "bang-history") "config.yaml"

end HistoryExpansion.Config
