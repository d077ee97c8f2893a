import HistoryExpansion.Shell.Condition
import HistoryExpansion.Shell.Format
import HistoryExpansion.Shell.Utility.Basic

/-!
# Utilities that read no input

Programs that print what their arguments say, check it, or wait for as long as it says.
-/

namespace HistoryExpansion.Shell.Utility

/-! ## Printing -/

/-- Ends well. -/
def succeed : Utility := fun task => task.idle

/-- Ends with a failure. -/
def fail : Utility := fun task => { task.idle with status := 1 }

/-- Prints its arguments. -/
def echo : Utility := fun task => task.done (echoedPlainly task.arguments)

/-- What the program says of a fault, and whether it is a failure. -/
def printComplaint : PrintFault → String × Bool
  | .impure text number outside =>
    (quotedArgument text ++
      (if outside then ": Numerical result out of range"
        else if number then ": value not completely converted"
        else ": expected a numeric value"), true)
  | .outside text => (quotedArgument text ++ ": Numerical result out of range", true)
  | .surplus text =>
    ("warning: " ++ text ++ ": character(s) following character constant have been ignored", false)
  | .unknown directive => (directive ++ ": invalid conversion specification", true)
  | .cut directive => (directive ++ ": invalid conversion specification", true)

/-- Prints its arguments in a format. Texts that the format shows nowhere are worth a warning. -/
def printf : Utility := fun task =>
  match if task.arguments.head? = some "--" then task.arguments.drop 1 else task.arguments with
  | [] => task.misused "missing operand"
  | format :: texts =>
    let style :=
      { escapes := { stops := true, extended := true }, binary := .extended, sized := true
        quoting := some quotedIfUnsafe, single := true }
    let printing := formatted style format texts
    let complaints := printing.faults.map printComplaint
    let unused :=
      match printing.stopped, printing.left with
      | false, text :: _ =>
        ["warning: ignoring excess arguments, starting with " ++ quotedArgument text]
      | _, _ => []
    let report := (complaints.map Prod.fst ++ unused).foldl
      (fun (report : Report) message => report.warns (task.name ++ ": " ++ message))
      (task.done printing.output)
    { report with status := if complaints.any Prod.snd then 1 else 0 }

/-- How the program words what is wrong with a condition. -/
def conditionStyle : ConditionStyle where
  notNumber word := "invalid integer " ++ quotedArgument word
  notUnary first second :=
    if first.length = 2 ∧ first.startsWith "-" then
      quotedArgument first ++ ": unary operator expected"
    else "missing argument after " ++ quotedArgument second
  notBinary word := quotedArgument word ++ ": binary operator expected"
  surplus word := "extra argument " ++ quotedArgument word
  missing word := "missing argument after " ++ quotedArgument word

/-- Ends well if its arguments are a condition that holds. -/
def test : Utility := fun task =>
  let words :=
    if task.name.endsWith "[" then
      if task.arguments.getLast? = some "]" then some task.arguments.dropLast else none
    else some task.arguments
  match words with
  | none => task.fails "missing ']'" 2
  | some words =>
    match conditionStyle.holds task.disk words with
    | .ok holds => { task.idle with status := if holds then 0 else 1 }
    | .error complaint => task.fails complaint 2

/-- A decimal as a whole number of units of its last place, and how many places it has. -/
def decimal? (text : String) : Option (Int × Nat) := do
  let (negative, digits) :=
    match dropSpace text.toList with
    | '-' :: rest => (true, rest)
    | '+' :: rest => (false, rest)
    | rest => (false, rest)
  let (value, places, rest) ← takePlaces 10 digits
  let (exponent, rest) := takeExponent 'e' rest
  if !rest.isEmpty ∨ exponent.natAbs > 4096 then none
  let size : Int := (value * 10 ^ exponent.toNat : Nat)
  let shown := places + (-exponent).toNat
  let spare := min shown exponent.toNat
  some ((if negative then -size else size) / 10 ^ spare, shown - spare)

/-- A decimal by its units and its places. -/
def decimalText (units : Int) (places : Nat) : String :=
  (if units < 0 then "-" else "") ++ withPoint units.natAbs places false

/-- The numbers from a first one on in steps as long as they are not beyond a last one. All have as
many places as the first and the step. -/
def numbersBetween (first step last : Int × Nat) : List (Int × Nat) :=
  let places := max (max first.2 step.2) last.2
  let units (number : Int × Nat) : Int := number.1 * 10 ^ (places - number.2)
  let (low, stride, high) := (units first, units step, units last)
  let beyond := (stride > 0 ∧ low > high) ∨ (stride < 0 ∧ low < high)
  let size := if beyond then 0 else ((high - low) / stride + 1).toNat
  let shown := max first.2 step.2
  (List.range size).map fun (i : Nat) => ((low + stride * i) / 10 ^ (places - shown), shown)

/-- Prints numbers, each on its line or with another separator, and if asked for all in the width of
the widest. -/
def seq : Utility := fun task =>
  let isNegative (word : String) : Bool :=
    match word.toList with
    | '-' :: c :: _ => isDigit c || c == '.'
    | _ => false
  let (before, behind) := task.arguments.span fun word => word ≠ "--" ∧ !isNegative word
  let behind := if behind.head? = some "--" then behind else "--" :: behind
  let task := { task with arguments := before ++ behind }
  task.withOptions "w" "s" fun line =>
    let bad := line.operands.find? fun word => (decimal? word).isNone
    match bad, line.operands.drop 3, line.operands.filterMap decimal? with
    | _, extra :: _, _ => task.misused ("extra operand " ++ quotedArgument extra)
    | some word, _, _ =>
      task.misused ("invalid floating point argument: " ++ quotedArgument word)
    | _, _, [] => task.misused "missing operand"
    | _, _, first :: others =>
      let (first, step, last) :=
        match others with
        | [] => ((1, 0), (1, 0), first)
        | [last] => (first, (1, 0), last)
        | step :: last :: _ => (first, step, last)
      if step.1 = 0 then
        task.misused ("invalid Zero increment value: " ++ quotedArgument (line.operands.getD 1 ""))
      else
        let places := max first.2 step.2
        let widest :=
          [first, last].map fun (units, own) =>
            (decimalText (units * 10 ^ (places - own) / 10 ^ (own - places)) places).length
        let width := if line.has 'w' then widest.foldl max 0 else 0
        let texts := (numbersBetween first step last).map fun (units, places) =>
          let text := withPoint units.natAbs places false
          let sign := if units < 0 then "-" else ""
          let zeros := List.replicate (width - sign.length - text.length) '0'
          sign ++ String.ofList zeros ++ text
        if texts.isEmpty then task.idle
        else task.prints (String.intercalate ((line.value? 's').getD "\n") texts ++ "\n")

/-- The last part of a path, slashes at the end apart. -/
def lastPart (path : String) : String :=
  if path ≠ "" ∧ path.toList.all (· = '/') then "/"
  else ((Disk.withoutTrailingSlashes (Path.segments path)).getLast?).getD ""

/-- A name without an ending, unless it is nothing else. -/
def withoutEnding (ending name : String) : String :=
  let cut := (Text.before? ending.toList name.toList).map String.ofList
  if name = ending then name else cut.getD name

/-- What texts end with when they are printed: a line break, or a NUL if an option asks for it. -/
def CommandLine.ending (line : CommandLine) (option : Char) : String :=
  if line.has option then "\x00" else "\n"

/-- Prints the last parts of paths: of one path with an ending that is left out, or of many. -/
def basename : Utility := fun task =>
  task.withOptions "az" "s" fun line =>
    let shown (paths : List String) (ending : String) : Report :=
      task.prints (String.join (paths.map fun path =>
        withoutEnding ending (lastPart path) ++ CommandLine.ending line 'z'))
    if line.operands.isEmpty then task.misused "missing operand"
    else if line.has 'a' ∨ line.has 's' then
      shown line.operands ((line.value? 's').getD "")
    else
      match line.operands with
      | [path, ending] => shown [path] ending
      | _ :: _ :: extra :: _ => task.misused ("extra operand " ++ quotedArgument extra)
      | paths => shown paths ""

/-- A path without its last part. -/
def pathAbove (path : String) : String :=
  let above := (Disk.withoutTrailingSlashes (Path.segments path)).dropLast
  let above := Disk.withoutTrailingSlashes above
  if above.isEmpty then (if Path.isAbsolute path then "/" else ".")
  else String.intercalate "/" above

/-- Prints paths without their last parts. -/
def dirname : Utility := fun task =>
  task.withOptions "z" "" fun line =>
    if line.operands.isEmpty then task.misused "missing operand"
    else
      task.prints (String.join (line.operands.map fun path =>
        pathAbove path ++ CommandLine.ending line 'z'))

/-- Prints variables that it gets: those that are named, or all. -/
def variablesOf (task : Task) (line : CommandLine) : Report :=
  let ending := CommandLine.ending line '0'
  match line.operands with
  | [] => task.prints (String.join (task.environment.map fun (name, value) =>
      name ++ "=" ++ value ++ ending))
  | names =>
    let values := names.map fun name => task.environment.lookup name
    { task.prints (String.join (values.filterMap id |>.map (· ++ ending))) with
      status := if values.all Option.isSome then 0 else 1 }

/-- Prints variables that it gets. -/
def printenv : Utility := fun task =>
  task.withOptions "0" "" (variablesOf task) 2

/-- Prints the path of its directory. -/
def pwd : Utility := fun task =>
  task.withOptions "LP" "" fun line =>
    let report := task.done (Utf8.ofString (Path.ofParts true task.disk.here ++ "\n"))
    if line.operands.isEmpty then report
    else report.warns (task.name ++ ": ignoring non-option arguments")

/-! ## Time -/

/-- How long a word says, in thousandths of a second. -/
def duration? (word : String) : Option Nat :=
  let chars := word.toList
  let whole := chars.takeWhile isDigit
  let behind := chars.drop whole.length
  let (part, unit) :=
    match behind with
    | '.' :: rest => (rest.takeWhile isDigit, rest.dropWhile isDigit)
    | rest => ([], rest)
  let scale : Option Nat :=
    match unit with
    | [] => some 1
    | ['s'] => some 1
    | ['m'] => some 60
    | ['h'] => some 3600
    | ['d'] => some 86400
    | _ => none
  if word = "infinity" ∨ word = "inf" then some (2 ^ 64 * 1000)
  else if whole.isEmpty ∧ part.isEmpty then none
  else scale.map (· * (decimal whole * 1000 + decimal ((part ++ ['0', '0', '0']).take 3)))

/-- Lets time pass. -/
def sleep : Utility := fun task =>
  task.withOptions "" "" fun line =>
    let bad := line.operands.filter fun word => (duration? word).isNone
    let report := bad.foldl
      (fun (report : Report) word =>
        report.complains (task.name ++ ": invalid time interval " ++ quotedArgument word))
      task.idle
    if !bad.isEmpty then report.warns task.advice
    else if line.operands.isEmpty then task.misused "missing operand"
    else { task.idle with duration := sumOf (line.operands.filterMap duration?) }

end HistoryExpansion.Shell.Utility
