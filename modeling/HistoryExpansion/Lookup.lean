import HistoryExpansion.Expression
import HistoryExpansion.Failure
import HistoryExpansion.Position
import HistoryExpansion.Record

/-!
# Looking a command up

`resolve` finds the command that an expression refers to in a session's record. It reads and never
changes; tokens are looked for from the oldest command on.
-/

namespace HistoryExpansion

/-- The command that a signed number names. -/
def commandAt? (commands : List String) (number : Int64) : Option String :=
  if commands.length < UInt64.size then
    (position? number (UInt64.ofNat commands.length)).bind fun position =>
      commands[position.toNat]?
  else none

/-- Whether a command starts with a token. -/
def beginsWith (token command : String) : Bool :=
  token.toList.isPrefixOf command.toList

/-- Whether a command holds a token. -/
def holds (token command : String) : Bool :=
  Text.occursIn token.toList command.toList

/-- The command that an expression refers to among the commands of a record. -/
def resolveIn (commands : List String) : Expression → Except Failure String
  | .last => commands.getLast?.elim (.error (.invalidIndex 0)) .ok
  | .index number => (commandAt? commands number).elim (.error (.invalidIndex number)) .ok
  | .beginning token =>
    (commands.find? (beginsWith token)).elim (.error (.commandNotFound token)) .ok
  | .containing token =>
    (commands.find? (holds token)).elim (.error (.commandNotFound ("?" ++ token))) .ok
  | .plain => .error (.config "cannot resolve a message that is not a bang expression")

/-- The command that an expression refers to in a session's record. -/
def resolve (session : String) (record : Option Record) (expression : Expression) :
    Except Failure String :=
  match record with
  | none => .error (.noHistory session)
  | some record => resolveIn record.commands expression

end HistoryExpansion
