import HistoryExpansion.Shell.Expand

/-!
# Showing commands

A shell can show what its commands have become before it runs them. In the extended dialect a word
is shown as it could be typed.
-/

namespace HistoryExpansion.Shell

/-- What stands before a command that is shown. In the extended dialect its first character stands
once more for each text of commands around. -/
def traceLead (below : Interpreter) : Effect String := do
  let dialect := (← own).dialect
  let text := ((← value? "PS4").getD (if dialect.isExtended then "" else "+ ")).toList
  let lead ←
    match takeWord dialect (wordFuel text) .whole text with
    | .ok (word, _) =>
      let options := (← own).options
      changeOwn fun own => { own with options := { options with traces := false } }
      let lead := textOf (← below.expand word)
      changeOwn fun own => { own with options := options }
      pure lead
    | .error _ => pure (String.ofList text)
  let first := if dialect.isExtended then lead.toList.take 1 else []
  return String.join (List.replicate (← own).depth (String.ofList first)) ++ lead

/-- Shows a line. -/
def traceLine (below : Interpreter) (line : String) : Effect Unit := do
  if (← own).options.traces then
    writeText 2 ((← traceLead below) ++ line ++ "\n")

/-- Shows a line in the extended dialect only. -/
def traceExtended (below : Interpreter) (line : String) : Effect Unit := do
  if ← isExtended then traceLine below line

/-- A word as it was written. -/
def writtenText (word : Word) : String :=
  String.join (word.map fun
    | .text content true => "\"" ++ content ++ "\""
    | piece => unquotedText [piece])

/-- An assignment as it is shown. -/
def assignmentText (assignment : Assignment) (text : String) : String :=
  let index :=
    match assignment.index with
    | some word => "[" ++ unquotedText word ++ "]"
    | none => ""
  let value :=
    match assignment.value with
    | [.items _ _ words] =>
      "(" ++ String.intercalate " " (words.map writtenText) ++ ")"
    | _ => tracedWord text
  assignment.name ++ index ++ (if assignment.adds then "+=" else "=") ++ value

/-- Shows a call. -/
def traceCall (below : Interpreter) (assignments : List (Assignment × String))
    (words : List String) : Effect Unit := do
  let own ← own
  if !own.options.traces then return
  if own.dialect.isExtended then
    for (assignment, text) in assignments do
      traceLine below (assignmentText assignment text)
    if !words.isEmpty then traceLine below (String.intercalate " " (words.map tracedWord))
  else
    let pairs := assignments.map fun (assignment, text) => assignment.name ++ "=" ++ text
    traceLine below (String.intercalate " " (pairs ++ words))

end HistoryExpansion.Shell
