import HistoryExpansion.Failure
import HistoryExpansion.Text.Blank

/-!
# Reports

The text that a failed run ends in: what failed, and below it the causes from the nearest on. A
cause stands indented; if there are several, they are numbered from zero.
-/

namespace HistoryExpansion.CommandLine

/-- A failure that ends a run. -/
structure Report where
  /-- What failed. -/
  message : String
  /-- The causes from the nearest on. -/
  causes : List String
  deriving DecidableEq, Repr

namespace Report

/-- The report of a failure. -/
def ofFailure (failure : Failure) : Report :=
  ⟨failure.message, failure.causes⟩

/-- The report of a failure that is only the cause of another one. -/
def because (message : String) (failure : Failure) : Report :=
  ⟨message, failure.message :: failure.causes⟩

/-- A text whose first line stands behind a mark and whose other lines are indented. -/
def indented (mark indent text : String) : String :=
  mark ++ String.intercalate ("\n" ++ indent)
    ((Text.splitAtEach '\n' text.toList).map String.ofList)

/-- A cause that stands alone. -/
def single (cause : String) : String :=
  "\n" ++ indented "    " "    " cause

/-- A cause among others, with its number. -/
def numbered (cause : String × Nat) : String :=
  "\n" ++ indented ("    " ++ toString cause.2 ++ ": ") "       " cause.1

/-- The text of the causes. -/
def renderCauses : (causes : List String) → String
  | [] => ""
  | [cause] => "\n\nCaused by:" ++ single cause
  | causes => "\n\nCaused by:" ++ String.join (causes.zipIdx.map numbered)

/-- The text of a report. -/
def render (report : Report) : String :=
  "Error: " ++ report.message ++ renderCauses report.causes ++ "\n"

end Report

end HistoryExpansion.CommandLine
