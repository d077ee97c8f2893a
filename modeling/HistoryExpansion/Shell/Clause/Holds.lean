import HistoryExpansion.Shell.Builtin.Print
import HistoryExpansion.Shell.Regex.Reader
import HistoryExpansion.Shell.Trace

/-!
# Whether conditions between double brackets hold

The words of such a condition are not cut into fields. What stands on the right of a comparison is a
pattern unless it is quoted, and a regular expression may stand there too; the parts that it matches
are kept as items of a list.
-/

namespace HistoryExpansion.Shell.Clause

/-- The text of a pattern as it could be typed, with backslashes before what is quoted. -/
def patternText (pattern : List Glyph) : String :=
  String.join (pattern.map fun glyph =>
    if glyph.quoted then String.ofList ['\\', glyph.char] else String.ofList [glyph.char])

/-- The text of a regular expression, in which what is quoted stands for itself. -/
def regexText (pattern : List Glyph) : List Char :=
  pattern.flatMap fun glyph =>
    if glyph.quoted ∧ ".[]\\()*+?\x7b\x7d|^$".toList.contains glyph.char then ['\\', glyph.char]
    else octetChars [glyph.char]

/-- The status of something that holds or not. -/
def statusOf (holds : Bool) : Nat :=
  if holds then 0 else 1

/-- Whether letters are the same be they small or capital. -/
def foldsCase : Effect Bool := do
  return (← own).options.further.contains "nocasematch"

/-- Whether a text fits a pattern. -/
def fits (text : String) (pattern : List Glyph) : Effect Bool := do
  if ← foldsCase then
    let lower := pattern.map fun glyph => { glyph with char := glyph.char.toLower }
    return fitsPattern lower text.toLower.toList
  else return fitsPattern pattern text.toList

/-- Matches a text with a regular expression and keeps the parts of the match. -/
def matchRegex (text : String) (pattern : List Glyph) : Effect Nat := do
  match Regex.parse { extended := true } (regexText pattern) with
  | .error _ => return 2
  | .ok regex =>
    match regex.find? { fold := ← foldsCase } none (octetChars text.toList) with
    | none =>
      assignItems "BASH_REMATCH" (.numbered [])
      return 1
    | some found =>
      let shown (chars : List Char) : String := String.ofList (ofOctetChars chars)
      let groups := (List.range' 1 regex.groupCount).map fun n =>
        shown ((found.groups.lookup n).getD [])
      assignItems "BASH_REMATCH" (Items.ofTexts 0 (shown found.text :: groups))
      return 0

/-- Compares two numbers, each of which is an expression. -/
def compareNumbers (test left right : String) : Effect Nat := do
  calledAs "[[" do
    try
      let a ← arithmeticValue left
      let b ← arithmeticValue right
      return statusOf (match test with
        | "-eq" => a == b
        | "-ne" => a != b
        | "-lt" => decide (a < b)
        | "-le" => decide (a ≤ b)
        | "-gt" => decide (b < a)
        | _ => decide (b ≤ a))
    catch
      | .failed _ => return 1
      | flow => throw flow

/-- Tests two words. -/
def testTwo (below : Interpreter) (test : String) (left right : Word) : Effect Nat := do
  let text ← expandText below left
  let pattern := glyphsOf (← below.expand right)
  let plain := plainText pattern
  let isMatch := ["=", "==", "!=", "=~"].contains test
  let shown (word : String) : String := if word = "" then "''" else word
  traceLine below ("[[ " ++ shown text ++ " " ++ test ++ " " ++
    shown (if isMatch then patternText pattern else plain) ++ " ]]")
  match test with
  | "=" => return statusOf (← fits text pattern)
  | "==" => return statusOf (← fits text pattern)
  | "!=" => return statusOf !(← fits text pattern)
  | "=~" => matchRegex text pattern
  | test =>
    if ["-eq", "-ne", "-lt", "-le", "-gt", "-ge"].contains test then compareNumbers test text plain
    else
      match binaryTest? (← diskHere) test text plain with
      | some (.ok holds) => return statusOf holds
      | _ => return 2

/-- Tests one word. -/
def testOne (below : Interpreter) (test : String) (word : Word) : Effect Nat := do
  let text ← expandText below word
  traceLine below ("[[ " ++ test ++ " " ++ (if text = "" then "''" else text) ++ " ]]")
  if test = "-v" then
    match referenceOf text with
    | (name, some index) =>
      let isAll := match index with
        | [.text "@" _] => true
        | [.text "*" _] => true
        | _ => false
      if isAll then return statusOf !(← itemsOf name).isEmpty
      else
        match ← indexOf below name index with
        | some index => return statusOf ((← own).textOf? ⟨← meant name, some index⟩).isSome
        | none => return 1
    | (name, none) => return statusOf (← parameter? name).isSome
  else
    let style := Builtin.conditionStyle (← own)
    return statusOf ((style.unary? (← diskHere) test text).getD false)

/-- The status of a condition: zero if it holds, one if not, and two if it makes no sense. -/
def status (below : Interpreter) : Clause → Effect Nat
  | .unary test word => testOne below test word
  | .binary test left right => testTwo below test left right
  | .negated clause => do return if (← status below clause) = 0 then 1 else 0
  | .both first second => do
    let found ← status below first
    if found = 0 then status below second else return found
  | .either first second => do
    let found ← status below first
    if found = 0 then return found else status below second

end HistoryExpansion.Shell.Clause
