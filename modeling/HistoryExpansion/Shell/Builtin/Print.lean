import HistoryExpansion.Shell.Builtin.Basic
import HistoryExpansion.Shell.Condition
import HistoryExpansion.Shell.Format

/-!
# Commands that print or test

Printing arguments, the directory and whether a condition holds.
-/

namespace HistoryExpansion.Shell.Builtin

/-- Prints its arguments. -/
def echo : Builtin := fun arguments => do
  let own ← own
  if own.dialect.isExtended ∧ !own.options.further.contains "xpg_echo" then
    printing (echoedPlainly arguments)
  else printing (echoed arguments)

/-- What the plain dialect says of a fault. A quote that stands alone is as good as no text, and
what stands behind a quoted character does not matter. -/
def printComplaint? : PrintFault → Option String
  | .impure text number _ =>
    if text = "'" ∨ text = "\"" then none
    else some (text ++ if number then ": not completely converted" else ": expected numeric value")
  | .outside text => some (text ++ ": Numerical result out of range")
  | .surplus _ => none
  | .unknown directive => some (directive ++ ": invalid directive")
  | .cut _ => some "missing format character"

/-- What the extended dialect says of a fault. -/
def extendedPrintComplaint? : PrintFault → Option String
  | .impure text _ _ =>
    if text = "'" ∨ text = "\"" then none else some (text ++ ": invalid number")
  | .outside text => some ("warning: " ++ text ++ ": Numerical result out of range")
  | .surplus _ => none
  | .unknown directive =>
    some (betweenMarks (String.ofList (directive.toList.getLast?).toList) ++
      ": invalid format character")
  | .cut directive => some (betweenMarks directive ++ ": missing format character")

/-- Prints in a format, and gives the output and the status. -/
def printed (format : String) (texts : List String) : Effect (Octets × Nat) := do
  let extended ← isExtended
  let style : PrintStyle :=
    { escapes := { extended := extended, stops := false }
      binary := if extended then .extended else .double
      sized := extended
      quoting := if extended then some backslashed else none }
  let result := formatted style format texts
  let complaints := result.faults.filterMap
    (if extended then extendedPrintComplaint? else printComplaint?)
  for complaint in complaints do
    complain complaint
  let failed := result.faults.any fun
    | .outside _ => !extended
    | .surplus _ => false
    | .impure text _ _ => text ≠ "'" && text ≠ "\""
    | _ => true
  let status := if result.isMisformed && !extended then 2 else if failed then 1 else 0
  return (result.output, status)

/-- Prints its arguments in a format, or gives a variable what it would print. -/
def printf : Builtin := fun arguments => do
  let extended ← isExtended
  match arguments with
  | "-v" :: name :: format :: texts =>
    if extended then
      let (output, status) ← printed format texts
      let text := String.ofList (Utf8.decodeLossy output)
      match referenceOf name with
      | (name, some [.text index _]) => assignItem name index text
      | (name, _) => assign name text
      return status
    else fail "Illegal option -v"
  | _ => pure ()
  match if arguments.head? = some "--" then arguments.drop 1 else arguments with
  | [] =>
    if extended then
      writeText 2 "printf: usage: printf [-v var] format [arguments]\n"
      return 2
    fail "usage: printf format [arg ...]"
  | format :: texts =>
    match arguments.head?.map String.toList with
    | some ('-' :: c :: _) =>
      if c ≠ '-' then
        if extended then
          return ← misusedOption (String.ofList ['-', c]) "printf [-v var] format [arguments]"
        else fail ("Illegal option -" ++ String.ofList [c])
    | _ => pure ()
    let (output, status) ← printed format texts
    let written ← printing output
    return max status written

/-- Prints the path of the shell's directory. -/
def pwd : Builtin := fun arguments => do
  let own ← own
  let parts := if arguments.contains "-P" then own.here else own.shownHere
  printingText (Path.ofParts true parts ++ "\n")

/-- How the extended dialect words what is wrong with a condition. -/
def conditionStyle (own : Own) : ConditionStyle where
  notNumber word := word ++ ": integer expression expected"
  notUnary first _ := first ++ ": unary operator expected"
  notBinary word := word ++ ": binary operator expected"
  surplus _ := "too many arguments"
  missing _ := "argument expected"
  isSet name := (own.bindings.lookup name).any fun binding =>
    binding.value.isSome || binding.items.any fun items => items.size > 0
  isOn name := own.options.further.contains name

/-- Ends well if its arguments are a condition that holds. -/
def test (name : String) : Builtin := fun arguments => do
  let words :=
    if name = "[" then
      if arguments.getLast? = some "]" then some arguments.dropLast else none
    else some arguments
  match words with
  | none =>
    complainAs "missing ]" "missing \x60]'"
    return 2
  | some words =>
    let own ← own
    let disk ← diskHere
    match if own.dialect.isExtended then (conditionStyle own).holds disk words
      else condition disk words with
    | .ok holds => return if holds then 0 else 1
    | .error complaint =>
      complain complaint
      return 2

end HistoryExpansion.Shell.Builtin
