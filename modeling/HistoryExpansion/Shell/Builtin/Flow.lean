import HistoryExpansion.Shell.Builtin.Basic

/-!
# Commands that leave

Commands that end the shell, a function or loops, or drop arguments.
-/

namespace HistoryExpansion.Shell.Builtin

/-- Ends the shell. -/
def exit : Builtin := fun arguments => do
  match arguments with
  | [] => throw (.exit (← own).status)
  | word :: _ => throw (.exit (← statusArgument word))

/-- Ends a function, or a text that is run from a file. -/
def leave : Builtin := fun arguments => do
  let own ← own
  let word? := arguments.head?
  if own.dialect.isExtended ∧ !own.inFunction ∧ own.sources = 0 then
    complain "can only \x60return' from a function or sourced script"
    return 2
  match word? with
  | none => throw (.leave own.status)
  | some word => throw (.leave (← statusArgument word))

/-- Ends loops, or lets them go on. -/
def leaveLoops (flow : Nat → Flow) : Builtin := fun arguments => do
  let own ← own
  if own.dialect.isExtended ∧ own.loops = 0 then
    complain "only meaningful in a \x60for', \x60while', or \x60until' loop"
    return 0
  let levels ←
    match arguments with
    | [] => pure 1
    | word :: _ => numberArgument word
  if levels = 0 then
    failAs "Illegal number: 0" ((arguments.headD "0") ++ ": loop count out of range")
  match own.loops with
  | 0 => return 0
  | loops => throw (flow (min levels loops))

/-- Drops arguments. -/
def shift : Builtin := fun arguments => do
  let count ←
    match arguments with
    | [] => pure 1
    | word :: _ => numberArgument word
  if count > (← own).arguments.length then
    if ← isExtended then return 1
    fail "can't shift that many"
  changeOwn fun own => { own with arguments := own.arguments.drop count }
  return 0

end HistoryExpansion.Shell.Builtin
