import HistoryExpansion.Shell.Builtin
import HistoryExpansion.Shell.Program.Search

/-!
# Remembering where programs are

A shell need not search for a program that it has called before. What it remembers can be shown,
changed and forgotten.
-/

namespace HistoryExpansion.Shell

/-- The number of places of the table in which the plain dialect remembers programs. -/
def plainPlaces : Nat := 31

/-- The number of places of the table in which the extended dialect remembers programs. -/
def extendedPlaces : Nat := 256

/-- The programs that a shell remembers, in the order of their places. -/
def rememberedInOrder : Effect (List Remembered) := do
  let own ← own
  let place (remembered : Remembered) : Nat :=
    match own.dialect with
    | .plain =>
      let octets := (Utf8.ofString remembered.name).map (·.toNat)
      (octets.headD 0 * 16 + sumOf octets) % plainPlaces
    | .extended => Items.codeOf remembered.name % extendedPlaces
  let listed := if own.dialect.isExtended then own.remembered else own.remembered.reverse
  return listed.mergeSort fun a b => place a ≤ place b

/-- Searches for programs and remembers where they are. -/
def rememberAll (words : List String) : Effect Nat := do
  let own ← own
  let mut status := 0
  for word in words do
    if !Builtin.isBuiltin own.dialect word ∧ (own.functions.lookup word).isNone then
      changeOwn fun own =>
        { own with remembered := own.remembered.filter (·.name ≠ word) }
      match ← lookUp word with
      | .ok (path, _) => remember word path 0
      | .error _ =>
        complain (word ++ ": not found")
        status := 1
  return status

/-- Remembers, shows or forgets programs in the plain dialect. -/
def rememberPlain (arguments : List String) : Effect Nat := do
  match arguments with
  | [] =>
    let lines := (← rememberedInOrder).map fun remembered => remembered.path ++ "\n"
    Builtin.printingText (String.join lines)
  | word :: rest =>
    match word.toList with
    | '-' :: c :: _ =>
      if word = "--" then rememberAll rest
      else if c = 'r' then
        changeOwn fun own => { own with remembered := [] }
        return 0
      else fail ("Illegal option -" ++ String.ofList [c])
    | _ => rememberAll arguments

/-- Shows the programs that a shell of the extended dialect remembers; with the flag as commands. -/
def showRemembered (asCommands : Bool) : Effect Nat := do
  let listed ← rememberedInOrder
  let number (calls : Nat) : String :=
    let digits := toString calls
    String.ofList (List.replicate (4 - digits.length) ' ') ++ digits
  if asCommands then
    Builtin.printingText (String.join (listed.map fun remembered =>
      "builtin hash -p " ++ remembered.path ++ " " ++ remembered.name ++ "\n"))
  else if listed.isEmpty then Builtin.printingText "hash: hash table empty\n"
  else
    Builtin.printingText ("hits\tcommand\n" ++ String.join (listed.map fun remembered =>
      number remembered.calls ++ "\t" ++ remembered.path ++ "\n"))

/-- Shows the paths of programs that a shell of the extended dialect remembers. -/
def showPaths (words : List String) : Effect Nat := do
  let mut status := 0
  for word in words do
    match (← own).remembered.find? (·.name == word) with
    | some remembered =>
      let title := if words.length > 1 then word ++ "\t" else ""
      status := max status (← Builtin.printingText (title ++ remembered.path ++ "\n"))
    | none =>
      complain (word ++ ": not found")
      status := 1
  return status

/-- Remembers, shows or forgets programs in the extended dialect. -/
def rememberExtended (letters : List Char) (path : Option String) (words : List String) :
    Effect Nat := do
  if letters.contains 'r' then
    changeOwn fun own => { own with remembered := [] }
  match path with
  | some path =>
    for word in words do
      changeOwn fun own =>
        { own with remembered := own.remembered.filter (·.name ≠ word) }
      remember word path 0
    return 0
  | none =>
    if words.isEmpty then
      if letters.contains 'r' then return 0
      let own ← own
      if letters.contains 'l' ∧ own.remembered.isEmpty then return 0
      showRemembered (letters.contains 'l')
    else if letters.contains 't' then showPaths words
    else if letters.contains 'd' then
      changeOwn fun own =>
        { own with remembered := own.remembered.filter fun r => !words.contains r.name }
      return 0
    else rememberAll words

/-- Remembers, shows or forgets programs. -/
def rememberPrograms (arguments : List String) : Effect Nat := do
  if !(← isExtended) then return ← rememberPlain arguments
  let options := arguments.takeWhile fun word => word.length > 1 ∧ word.startsWith "-"
  let letters := (options.flatMap fun word => word.toList.drop 1).filter (· ≠ '-')
  match letters.find? fun c => !"lrdtp".toList.contains c with
  | some c =>
    Builtin.misusedOption (String.ofList ['-', c])
      "hash [-lr] [-p pathname] [-dt] [name ...]"
  | none =>
    let words := arguments.drop options.length
    if letters.contains 'p' then rememberExtended letters words.head? (words.drop 1)
    else rememberExtended letters none words

end HistoryExpansion.Shell
