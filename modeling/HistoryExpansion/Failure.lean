/-!
# Failures

Everything that can go wrong, by its cause, and the one place where each cause is worded.
-/

namespace HistoryExpansion

/-- How a JSON text can fail to be what was asked for. -/
inductive JsonFault where
  /-- The text ends too early. -/
  | ended
  /-- The text is not JSON where it was last read. -/
  | malformed
  /-- The text is JSON of another shape. -/
  | misshapen
  deriving DecidableEq, Repr

/-- The cause of a failure. -/
inductive Failure where
  /-- A request that the configuration or the caller should not have made. -/
  | config (text : String)
  /-- No configuration file stands at the path. -/
  | configMissing (path : String)
  /-- A configuration value that is refused. -/
  | configInvalid (field reason : String)
  /-- The session has no record. -/
  | noHistory (session : String)
  /-- The number names no command of the record. -/
  | invalidIndex (index : Int64)
  /-- No command of the record matches the pattern. -/
  | commandNotFound (pattern : String)
  /-- A command could not be run. -/
  | execution (reason : String)
  /-- A command outlasted its limit. -/
  | timeout (seconds : UInt64)
  /-- The history could not be kept. -/
  | storage (reason : String)
  /-- A file or a stream could not be read or written. -/
  | io (cause : String)
  /-- A history file is not in the history format. -/
  | json (fault : JsonFault)
  /-- A configuration file cannot be read as a configuration. -/
  | yaml
  deriving DecidableEq, Repr

namespace Failure

/-- The wording of a failure. What precisely is wrong with a JSON or YAML text is not worded. -/
def message : Failure → String
  | config text => "Configuration error: " ++ text
  | configMissing path => "Configuration file not found: " ++ path
  | configInvalid field reason => "Invalid configuration: " ++ field ++ " - " ++ reason
  | noHistory _ => "No history available"
  | invalidIndex index => "Invalid index: " ++ toString index.toInt
  | commandNotFound pattern => "Command not found: " ++ pattern
  | execution reason => "Command execution failed: " ++ reason
  | timeout seconds => "Command timeout after " ++ toString seconds.toNat ++ "s"
  | storage reason => "History storage error: " ++ reason
  | io cause => "IO error: " ++ cause
  | json _ => "JSON error: "
  | yaml => "YAML error: "

/-- Whether a message failed to expand: one of the three failures of looking a command up. -/
def isExpansion : Failure → Bool
  | noHistory _ | invalidIndex _ | commandNotFound _ => true
  | _ => false

/-- The key under which a failed expansion can be worded in another language. -/
def messageKey? : Failure → Option String
  | noHistory _ => some "bang.errors.no-history"
  | invalidIndex _ => some "bang.errors.invalid-index"
  | commandNotFound _ => some "bang.errors.command-not-found"
  | _ => none

/-- The text shown to a user. A failed expansion is worded plainly; every other failure is marked,
so that it is not taken for the output of a command. -/
def render (failure : Failure) : String :=
  match failure with
  | noHistory _ => "No history available."
  | invalidIndex _ => "Invalid index."
  | commandNotFound _ => "Command not found."
  | other => "error: " ++ other.message

/-- The texts of the causes below a failure, from the nearest on. That a JSON or YAML text is at
fault is a cause of its own, whose text is left out. -/
def causes : Failure → List String
  | io cause => [cause]
  | json _ | yaml => [""]
  | _ => []

end Failure

end HistoryExpansion
