import HistoryExpansion.Shell.Builtin.Basic

/-!
# Commands for variables

Variables are shown, marked, given values within a function only, and taken away. In the extended
dialect they can also be declared to be lists, numbers or names of others.
-/

namespace HistoryExpansion.Shell.Builtin

/-- The name and the value of a word that gives a variable a value; the flag tells that the value is
added to the one before. -/
def splitAssignment (word : String) : String × Bool × Option String :=
  let name := word.toList.takeWhile fun c => c ≠ '=' && c ≠ '+'
  match word.toList.drop name.length with
  | '=' :: value => (String.ofList name, false, some (String.ofList value))
  | '+' :: '=' :: value => (String.ofList name, true, some (String.ofList value))
  | _ => (word, false, none)

/-- A text in single quotes, where quotes within it stand in double ones. -/
def inQuotes (text : String) : String :=
  "'" ++ String.intercalate "'\"'\"'" ((Text.splitAtEach '\'' text.toList).map String.ofList) ++ "'"

/-! ## Showing -/

/-- The letters of what a variable is marked with. -/
def attributeLetters (binding : Binding) : String :=
  let letters := String.join
    [match binding.items with
      | some (.numbered _) => "a"
      | some (.keyed _) => "A"
      | none => "",
      if binding.whole then "i" else "", if binding.capital = some false then "l" else "",
      if binding.refers then "n" else "", if binding.constant then "r" else "",
      if binding.capital = some true then "u" else "", if binding.exported then "x" else ""]
  if letters = "" then "-" else letters

/-- Items as a list of them is written. -/
def itemsText (items : Items) : String :=
  match items with
  | .numbered entries =>
    "(" ++ String.intercalate " " (entries.map fun (index, text) =>
      "[" ++ toString index ++ "]=" ++ doubleQuoted text) ++ ")"
  | .keyed _ =>
    "(" ++ String.join (items.entries.map fun (key, text) =>
      "[" ++ (if key.toList.all isPlainChar then key else doubleQuoted key) ++ "]=" ++
        doubleQuoted text ++ " ") ++ ")"

/-- The declaration that would make a variable. -/
def declarationOf (name : String) (binding : Binding) : String :=
  let value :=
    match binding.items, binding.value with
    | some items, _ => "=" ++ itemsText items
    | none, some value => "=" ++ doubleQuoted value
    | none, none => ""
  "declare -" ++ attributeLetters binding ++ " " ++ name ++ value ++ "\n"

/-- The variables that pass a check, sorted by their names. -/
def variablesThat (check : Binding → Bool) : Effect (List (String × Binding)) := do
  let shown := (← own).bindings.filter fun (_, binding) => check binding
  return shown.mergeSort fun a b => a.1 ≤ b.1

/-- The variables that pass a check, one to a line. -/
def showVariables (start : String) (check : Binding → Bool) : Effect Nat := do
  let rows := (← variablesThat check).map fun (name, binding) =>
    start ++ name ++ (binding.value.map ("=" ++ inQuotes ·)).getD "" ++ "\n"
  printingText (String.join rows)

/-- The variables that pass a check, as declarations. -/
def showDeclarations (check : Binding → Bool) : Effect Nat := do
  let rows := (← variablesThat check).map fun (name, binding) => declarationOf name binding
  printingText (String.join rows)

/-- The variables with their values, as they are shown beside each other. -/
def showValues : Effect Nat := do
  let rows := (← variablesThat fun binding => binding.value.isSome || binding.items.isSome).map
    fun (name, binding) =>
      let value :=
        match binding.items with
        | some items => itemsText items
        | none => quotedIfNeeded (binding.value.getD "")
      name ++ "=" ++ value ++ "\n"
  printingText (String.join rows)

/-! ## Marking -/

/-- Changes what a variable is marked with. -/
def remark (name : String) (change : Binding → Binding) : Effect Unit := do
  setBinding name (change ((← binding? name).getD {}))

/-- Marks one variable, and gives it a value. -/
def markOne (change : Binding → Binding) (word : String) : Effect Nat := do
  let (name, adds, value) := splitAssignment word
  if !isName name.toList then
    if ← isExtended then
      complain (betweenMarks word ++ ": not a valid identifier")
      return 1
    else checkName name
  match value with
  | some value => assignText name adds value
  | none => pure ()
  remark name change
  return 0

/-- Marks variables, and gives them values. -/
def mark (builtin : String) (isMarked : Binding → Bool) (change unmark : Binding → Binding) :
    Builtin := fun arguments => do
  let extended ← isExtended
  let options := arguments.takeWhile fun word =>
    word.length > 1 ∧ word.startsWith "-" ∧ word ≠ "--" ∧ (extended ∨ word = "-p")
  let words := (arguments.drop options.length).filter (· ≠ "--")
  let showsAll : Effect Nat :=
    if extended then showDeclarations isMarked else showVariables (builtin ++ " ") isMarked
  if words.isEmpty then
    if options.contains "-f" then return 0 else showsAll
  else if options.contains "-p" ∧ !extended then showsAll
  else if options.contains "-f" then return 0
  else
    let mut status := 0
    for word in words do
      let found ← markOne (if options.contains "-n" then unmark else change) word
      status := max status found
    return status

/-- Takes a variable away. -/
def unsetOne (name : String) : Effect Nat := do
  let extended ← isExtended
  let constant := ((← binding? name).map Binding.constant).getD false
  if constant then
    if extended then
      complain (name ++ ": cannot unset: readonly variable")
      return 1
    fail (name ++ ": is read only")
  changeOwn fun own => { own with bindings := own.bindings.filter (·.1 ≠ name) }
  return 0

/-- Takes variables, items of lists or functions away. -/
def unset : Builtin := fun arguments => do
  let extended ← isExtended
  let words := arguments.filter fun word =>
    word ≠ "-v" ∧ word ≠ "-f" ∧ word ≠ "--" ∧ !(extended ∧ word = "-n")
  let mut status := 0
  for word in words do
    if arguments.head? = some "-f" then
      changeOwn fun own => { own with functions := own.functions.filter (·.1 ≠ word) }
    else if extended then
      match referenceOf word with
      | (name, some index) =>
        let text := textOf (index.filterMap fun
          | .text content _ => some (bitsOf .quoted content)
          | _ => none).flatten
        match (← binding? (← meant name)).bind Binding.items with
        | some items =>
          if text = "@" ∨ text = "*" then status := max status (← unsetOne (← meant name))
          else
            let index ←
              if items.hasKeys then pure text
              else pure (toString (← arithmeticValue text).toInt)
            let index := if index.startsWith "-" then
              toString ((items.next : Int) + ((signedNumber? index).getD 0)) else index
            assignItems name (items.remove index)
        | none => pure ()
      | (name, none) =>
        if isName name.toList then
          if arguments.contains "-n" then status := max status (← unsetOne name)
          else
            let name ← meant name
            if (← binding? name).isSome ∨ arguments.contains "-v" then
              status := max status (← unsetOne name)
            else
              changeOwn fun own => { own with functions := own.functions.filter (·.1 ≠ name) }
    else
      checkName word
      status := max status (← unsetOne word)
  return status

/-! ## Variables of functions -/

/-- Keeps the binding that a variable has until the function ends. -/
def saveBinding (name : String) : Effect Unit := do
  let old ← binding? name
  changeOwn fun own => { own with saved := (name, old) :: own.saved }

/-- Keeps the bindings of variables until the function ends, and gives them values. -/
def makeLocal : Builtin := fun arguments => do
  if !(← own).inFunction then fail "not in a function"
  for word in arguments do
    let (name, _, value) := splitAssignment word
    if value.isNone then checkName name
    saveBinding name
    match value with
    | some value => assign name value
    | none => pure ()
  return 0

/-! ## Declaring -/

/-- The change of a variable that a letter asks for, with a sign for setting or clearing. -/
def attributeChange (sets : Bool) (letter : Char) (binding : Binding) : Binding :=
  let scalar := binding.value.getD ""
  match letter with
  | 'a' =>
    if binding.items.isSome ∨ !sets then binding
    else { binding with items := some (.numbered (binding.value.toList.map fun v => (0, v))) }
  | 'A' =>
    if binding.items.isSome ∨ !sets then binding
    else { binding with items := some (.keyed (binding.value.toList.map fun v => ("0", v))) }
  | 'i' => { binding with whole := sets }
  | 'l' => { binding with capital := if sets then some false else none }
  | 'u' => { binding with capital := if sets then some true else none }
  | 'n' => { binding with refers := sets, value := if scalar = "" then none else binding.value }
  | 'x' => { binding with exported := sets }
  | _ => binding

/-- Declares one variable. -/
def declareOne (sets : Bool) (letters : List Char) (isLocal : Bool) (word : String) :
    Effect Nat := do
  let (name, adds, value) := splitAssignment word
  let (base, index) := referenceOf name
  if !isName base.toList then
    complain (betweenMarks word ++ ": not a valid identifier")
    return 1
  if isLocal then
    saveBinding base
    if !letters.contains 'I' then
      changeOwn fun own => { own with bindings := own.bindings.filter (·.1 ≠ base) }
  let refers := letters.contains 'n' && sets
  let other ← meant base
  let name := if refers then base else other
  let before := (← binding? name).getD {}
  setBinding name (letters.foldl (fun binding letter => attributeChange sets letter binding) before)
  match value, index with
  | some value, some [.text index _] => assignItem name index value
  | some value, _ =>
    if refers then remark name fun binding => { binding with value := some value }
    else assignText name adds value
  | none, _ => pure ()
  if letters.contains 'r' then remark name fun binding => { binding with constant := sets }
  return 0

/-- Shows the declaration of one variable. -/
def showOne (name : String) : Effect Nat := do
  match ← binding? name with
  | some binding => printingText (declarationOf name binding)
  | none =>
    complain (name ++ ": not found")
    return 1

/-- Declares variables, or shows what they were declared to be. -/
def declareAll (isLocal : Bool) : Builtin := fun arguments => do
  let inFunction := (← own).inFunction
  if isLocal ∧ !inFunction then
    complain "can only be used in a function"
    return 1
  let options := arguments.takeWhile fun word =>
    word.length > 1 ∧ (word.startsWith "-" ∨ word.startsWith "+") ∧ word ≠ "--"
  let words := (arguments.drop options.length).filter (· ≠ "--")
  let letters := options.flatMap fun word => word.toList.drop 1
  match letters.find? fun c => !"aAfFgiIlnprtux".toList.contains c with
  | some c =>
    misusedOption (String.ofList ['-', c])
      (if isLocal then "local [option] name[=value] ..."
        else "declare [-aAfFgiIlnrtux] [name[=value] ...] or declare -p [-aAfFilnrtux] [name ...]")
  | none =>
    let sets := !(options.any (·.startsWith "+"))
    if letters.contains 'F' ∨ letters.contains 'f' then
      let functions := (← own).functions.map Prod.fst
      let names := if words.isEmpty then functions.mergeSort fun a b => a ≤ b else words
      let known := names.filter functions.contains
      let lead := if words.isEmpty then "declare -f " else ""
      if letters.contains 'F' then
        let _ ← printingText (String.join (known.map fun name => lead ++ name ++ "\n"))
      return if known.length = names.length then 0 else 1
    if letters.contains 'p' then
      if words.isEmpty then showDeclarations fun _ => true
      else
        let mut status := 0
        for word in words do
          status := max status (← showOne word)
        return status
    else if words.isEmpty then
      let check (binding : Binding) : Bool :=
        letters.all fun c => (attributeLetters binding).toList.contains c
      if letters.isEmpty then showValues else showDeclarations check
    else
      let mut status := 0
      for word in words do
        let found ← declareOne sets letters (isLocal || (inFunction && !letters.contains 'g')) word
        status := max status found
      return status

/-- Evaluates arithmetic expressions, and ends well if the last one is not zero. -/
def evaluateAll : Builtin := fun arguments => do
  if arguments.isEmpty then
    complain "expression expected"
    return 1
  let mut value : Int64 := 0
  for word in arguments do
    value ← arithmeticValue word
  return if value = 0 then 1 else 0

end HistoryExpansion.Shell.Builtin
