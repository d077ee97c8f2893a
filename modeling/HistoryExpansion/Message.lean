import HistoryExpansion.Expression

/-!
# Messages

A message is for the engine when, once trimmed, it starts with the trigger. What follows the
trigger is its body: an expression, perhaps with the suffix `:p`, which asks to print the command
instead of running it.
-/

namespace HistoryExpansion

/-- A message that started with the trigger. -/
structure Message where
  /-- What the body refers to. -/
  expression : Expression
  /-- Whether the command is to be printed and not run. -/
  printOnly : Bool
  deriving DecidableEq, Repr

namespace Message

/-- The suffix that asks to print a command. -/
def printSuffix : List Char := [':', 'p']

/-- The message with a given body. One print suffix is taken off before the rest is classified. -/
def ofBody (body : String) : Message :=
  match Text.before? printSuffix body.toList with
  | some rest => ⟨Expression.ofChars rest, true⟩
  | none => ⟨Expression.ofChars body.toList, false⟩

/-- The body of a text: what follows the trigger once the blanks around the text are gone. -/
def body? (trigger text : String) : Option String :=
  (Text.after? trigger.toList (Text.trimmed text.toList)).map String.ofList

/-- The message that a text is under a trigger, if it starts with the trigger at all. -/
def read? (trigger text : String) : Option Message :=
  (body? trigger text).map ofBody

end Message

end HistoryExpansion
