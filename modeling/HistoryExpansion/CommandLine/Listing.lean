import HistoryExpansion.Record

/-!
# Listings

A listing shows the newest commands of a record, oldest first. Each row carries the number under
which an expression finds its command: the oldest command of the record, shown or not, has number
one.
-/

namespace HistoryExpansion.CommandLine

/-- A row of a listing. -/
structure Row where
  /-- The number of the command in its record. -/
  number : Nat
  /-- The command. -/
  command : String
  deriving DecidableEq, Repr

namespace Listing

/-- The rows for the newest commands of a record, no more than a limit. -/
def rows (limit : Nat) (record : Record) : List Row :=
  newest limit ((record.commands.zipIdx 1).map fun (command, number) => ⟨number, command⟩)

/-- A text with spaces before it, so that it is no shorter than a width. -/
def padded (width : Nat) (text : String) : String :=
  String.ofList (List.replicate (width - text.length) ' ') ++ text

/-- The line of a row. -/
def line (row : Row) : String :=
  padded 5 (toString row.number) ++ "  " ++ row.command ++ "\n"

/-- The lines above the rows. -/
def heading (session : String) : String :=
  "Command History for '" ++ session ++ "' (oldest first):\n" ++
    String.ofList (List.replicate 80 '-') ++ "\n"

/-- The line in place of a listing when there is no command to list. -/
def emptyNotice (session : String) : String :=
  "No command history for session '" ++ session ++ "'.\n"

/-- The listing of a session's record. -/
def render (session : String) (limit : Nat) (record : Option Record) : String :=
  match record.filter fun record => !record.isEmpty with
  | none => emptyNotice session
  | some record => heading session ++ String.join ((rows limit record).map line)

end Listing

end HistoryExpansion.CommandLine
