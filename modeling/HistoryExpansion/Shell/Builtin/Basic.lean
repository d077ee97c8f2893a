import HistoryExpansion.Shell.Assign

/-!
# What the commands of the shell itself share

A command of the shell itself takes its arguments and gives its status. The two dialects word their
complaints differently; where they also differ in the status, the extended one says so.
-/

namespace HistoryExpansion.Shell

/-- A command of the shell itself. -/
abbrev Builtin := List String → Effect Nat

namespace Builtin

/-- The number that an argument must be. -/
def numberArgument (word : String) : Effect Nat := do
  let digits := dropSpace word.toList
  if !digits.isEmpty ∧ digits.all isDigit ∧ decimal digits < 2 ^ 31 then return decimal digits
  else failAs ("Illegal number: " ++ word) (word ++ ": numeric argument required")

/-- The whole number that a word is, with its sign. -/
def signedNumber? (word : String) : Option Int :=
  let digits (text : List Char) : Option Int :=
    if text.isEmpty ∨ !text.all isDigit then none else some (decimal text)
  match dropSpace word.toList with
  | '-' :: rest => (digits rest).map (-·)
  | '+' :: rest => digits rest
  | rest => digits rest

/-- The status that an argument asks for. In the plain dialect it may be greater than that of any
process. -/
def statusArgument (word : String) : Effect Nat := do
  if ← isExtended then
    match signedNumber? word with
    | some value => return (value % 256).toNat
    | none =>
      complain (word ++ ": numeric argument required")
      return 2
  else numberArgument word

/-- Writes octets for a command, and gives the status that this leads to. -/
def printing (octets : Octets) : Effect Nat := do
  match ← write 1 octets with
  | .ok () => return 0
  | .error error =>
    complainAs (((← own).caller.getD "") ++ ": I/O error") ("write error: " ++ error.reason)
    return 1

/-- Writes text for a command. -/
def printingText (text : String) : Effect Nat :=
  printing (Utf8.ofString text)

/-- A text filled with blanks on its right. -/
def filledTo (width : Nat) (text : String) : String :=
  text ++ String.ofList (List.replicate (width - text.length) ' ')

/-- Complains of an option that there is not, and shows how the command is called. -/
def misusedOption (letter : String) (usage : String) : Effect Nat := do
  complain (letter ++ ": invalid option")
  let caller := ((← own).caller).getD ""
  writeText 2 (caller ++ ": usage: " ++ usage ++ "\n")
  return 2

/-- Fails unless a word is a name. -/
def checkName (name : String) : Effect Unit := do
  if !isName name.toList then
    failAs (name ++ ": bad variable name") (betweenMarks name ++ ": not a valid identifier")

end Builtin

end HistoryExpansion.Shell
