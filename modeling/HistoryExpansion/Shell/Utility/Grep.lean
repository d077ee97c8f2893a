import HistoryExpansion.Shell.Regex.Reader
import HistoryExpansion.Shell.Utility.Basic
import HistoryExpansion.Shell.Word

/-!
# Searching lines

Prints the lines of its inputs that match one of its patterns, or says how many they are or where
they were found.
-/

namespace HistoryExpansion.Shell.Utility

/-- The characters of octets, one for each. -/
def charsOf (octets : Octets) : List Char :=
  octets.map fun octet => Char.ofNat octet.toNat

/-- The octets of characters that each stand for one. -/
def octetsFrom (chars : List Char) : Octets :=
  chars.map fun c => c.toNat.toUInt8

/-- The characters of a text, one for each of its octets. -/
def charsOfText (text : String) : List Char :=
  charsOf (Utf8.ofString text)

namespace Grep

/-- The options of the program. -/
def rules : OptionRules where
  flags := "EFGPiyvnclLoqshHwxrRaIbzTUuZ"
  takers := "efmABCdDOST"
  optional := "K"
  names :=
    [("extended-regexp", 'E'), ("fixed-strings", 'F'), ("basic-regexp", 'G'), ("perl-regexp", 'P'),
      ("regexp", 'e'), ("file", 'f'), ("ignore-case", 'i'), ("word-regexp", 'w'),
      ("line-regexp", 'x'), ("null-data", 'z'), ("no-messages", 's'), ("invert-match", 'v'),
      ("max-count", 'm'), ("byte-offset", 'b'), ("line-number", 'n'), ("with-filename", 'H'),
      ("no-filename", 'h'), ("only-matching", 'o'), ("quiet", 'q'), ("silent", 'q'),
      ("text", 'a'), ("recursive", 'r'), ("dereference-recursive", 'R'),
      ("files-without-match", 'L'), ("files-with-matches", 'l'), ("count", 'c'),
      ("after-context", 'A'), ("before-context", 'B'), ("context", 'C'), ("color", 'K'),
      ("colour", 'K'), ("include", 'S'), ("exclude", 'D'), ("exclude-dir", 'O'), ("null", 'Z'),
      ("line-buffered", 'u'), ("binary", 'U'), ("initial-tab", 'T')]

/-- What is looked for. -/
structure Wanted where
  /-- The expressions, any of which may match. -/
  regexes : List Regex
  /-- How they are matched. -/
  options : Regex.Options
  /-- Which of their matches count. -/
  accepts : Regex.Cursor → Regex.Cursor → Bool

/-- The earliest match of one of the expressions, and the longest one of those. -/
def Wanted.find? (wanted : Wanted) (before : Option Char) (text : List Char) :
    Option Regex.Match :=
  let found := wanted.regexes.filterMap fun regex =>
    regex.findAccepted? wanted.options wanted.accepts before text
  found.foldl
    (fun best one =>
      match best with
      | none => some one
      | some other =>
        let start := one.skipped.length
        let otherStart := other.skipped.length
        if start < otherStart || (start == otherStart && one.text.length > other.text.length) then
          some one
        else some other)
    none

/-- All matches within a text that are not empty, each with the number of characters before it. -/
def Wanted.findAll (wanted : Wanted) : (fuel : Nat) → (start : Nat) → (before : Option Char) →
    List Char → List (Nat × List Char)
  | 0, _, _, _ => []
  | fuel + 1, start, before, text =>
    match wanted.find? before text with
    | none => []
    | some found =>
      let here := start + found.skipped.length
      if found.text.isEmpty then
        match found.rest with
        | [] => []
        | c :: rest => wanted.findAll fuel (here + 1) (some c) rest
      else
        (here, found.text) ::
          wanted.findAll fuel (here + found.text.length) found.text.getLast? found.rest

/-- The expression that a pattern writes. -/
def regexOf (line : CommandLine) (pattern : List Char) : Except Regex.Fault Regex :=
  match line.lastOf "EFGP" with
  | some 'F' => .ok (pattern.foldr (fun c rest => .both (Regex.exactly c) rest) .nothing)
  | some 'P' =>
    Regex.parse
      { extended := true, controls := true, inBrackets := true, digits := true } pattern
  | kind => Regex.parse { extended := kind == some 'E' } pattern

/-- What the patterns of a command line ask for. -/
def wantedOf (line : CommandLine) (patterns : List (List Char)) : Except Regex.Fault Wanted := do
  let regexes ← (patterns.flatMap (Text.splitAtEach '\n')).mapM (regexOf line)
  return {
    regexes := regexes
    options := { fold := line.hasAny "iy" }
    accepts :=
      if line.has 'x' then Regex.isWholeText
      else if line.has 'w' then Regex.isWholeWords
      else fun _ _ => true }

/-! ## Lines -/

/-- A line of an input. -/
structure Row where
  /-- Its number. -/
  number : Nat
  /-- The number of octets before it. -/
  offset : Nat
  /-- Its characters. -/
  text : List Char
  /-- Whether it is selected. -/
  selected : Bool

/-- The lines of an input. -/
def rowsOf (wanted : Wanted) (inverted : Bool) (octets : Octets) : List Row :=
  ((linesOf octets).foldl
    (fun (rows, number, offset) line =>
      let text := charsOf line
      let selected := (wanted.find? none text).isSome != inverted
      (⟨number, offset, text, selected⟩ :: rows, number + 1, offset + line.length + 1))
    (([] : List Row), 1, 0)).1.reverse

/-- The lines up to the last one that is selected if only so many may be. -/
def upToCount : (count : Nat) → List Row → List Row
  | _, [] => []
  | 0, _ => []
  | count + 1, row :: rows => row :: upToCount (if row.selected then count else count + 1) rows

/-- The start of a line of output. -/
def leadOf (line : CommandLine) (name : Option String) (mark : String) (number offset : Nat) :
    String :=
  (name.map (· ++ if line.has 'Z' then "\x00" else mark)).getD "" ++
    (if line.has 'n' then toString number ++ mark else "") ++
    (if line.has 'b' then toString offset ++ mark else "")

/-- The number that an option is set to, or another one. -/
def countOr (usual : Nat) (value : Option String) : Nat :=
  match value with
  | none => usual
  | some word => if word.toList.all isDigit then decimal word.toList else usual

/-- What is printed of the lines of an input: those that are selected, with some lines before and
behind them. -/
def printedRows (line : CommandLine) (wanted : Wanted) (name : Option String) (rows : List Row) :
    Octets :=
  let context := countOr 0 (line.value? 'C')
  let before := countOr context (line.value? 'B')
  let behind := countOr context (line.value? 'A')
  let numbers := (rows.filter Row.selected).map Row.number
  let isShown (row : Row) : Bool := numbers.any fun number =>
    (decide (row.number ≤ number) && decide (number ≤ row.number + before)) ||
      (decide (number ≤ row.number) && decide (row.number ≤ number + behind))
  let shown := if before + behind = 0 then rows.filter Row.selected else rows.filter isShown
  let parts (row : Row) : Octets :=
    if line.has 'o' then
      if line.has 'v' || !row.selected then []
      else
        (wanted.findAll (row.text.length + 1) 0 none row.text).flatMap fun (start, text) =>
          Utf8.ofString (leadOf line name ":" row.number (row.offset + start)) ++
            octetsFrom text ++ [0x0A]
    else
      Utf8.ofString (leadOf line name (if row.selected then ":" else "-") row.number row.offset) ++
        octetsFrom row.text ++ [0x0A]
  let gap (last : Option Nat) (row : Row) : Octets :=
    if before + behind = 0 then []
    else if last.any (· + 1 < row.number) then Utf8.ofString "--\n" else []
  (shown.foldl (fun (octets, last) row => (octets ++ gap last row ++ parts row, some row.number))
    (([] : Octets), (none : Option Nat))).1

/-! ## Inputs -/

/-- How the search stands. -/
structure Search where
  /-- What was written so far. -/
  report : Report
  /-- Whether a line was selected. -/
  found : Bool := false
  /-- Whether something went wrong. -/
  failed : Bool := false

/-- Searches an input. -/
def searchInput (line : CommandLine) (wanted : Wanted) (shown : String) (named : Bool)
    (octets : Octets) (search : Search) : Search :=
  let rows := rowsOf wanted (line.has 'v') octets
  let rows := match line.value? 'm' with
    | none => rows
    | some count => upToCount (countOr 0 (some count)) rows
  let count := (rows.filter Row.selected).length
  let hit := count > 0
  let name := if named then some shown else none
  let ending := if line.has 'Z' then "\x00" else "\n"
  let isBinary := octets.contains 0 && !line.has 'a'
  let report := search.report
  let report :=
    if line.has 'q' then report
    else if line.has 'l' then if hit then report.prints (shown ++ ending) else report
    else if line.has 'L' then if hit then report else report.prints (shown ++ ending)
    else if line.has 'c' then
      report.prints (((name.map (· ++ ":")).getD "") ++ toString count ++ "\n")
    else if isBinary then
      if hit then report.prints ("grep: " ++ shown ++ ": binary file matches\n") else report
    else report.adds (printedRows line wanted name rows)
  { search with report := report, found := search.found || (if line.has 'L' then !hit else hit) }

/-- Whether a name fits one of some patterns. -/
def fitsOne (patterns : List String) (name : String) : Bool :=
  patterns.any fun pattern => fitsPattern (pattern.toList.map fun c => ⟨c, false⟩) name.toList

/-- The files that a path leads to: itself, or all files below it. -/
def filesBelow (line : CommandLine) (disk : Disk) (path : String) : List String :=
  match disk.locate path with
  | .error _ => [path]
  | .ok place =>
    if disk.entry? place = some .directory then
      let kept (other : Location) (entry : Entry) : Bool :=
        let name := other.getLast?.getD ""
        (match entry with
          | .file _ => true
          | .program _ => true
          | _ => false) &&
          (line.allValues 'S' |> fun patterns => patterns.isEmpty || fitsOne patterns name) &&
          !fitsOne (line.allValues 'D') name &&
          !other.dropLast.any (fitsOne (line.allValues 'O'))
      let files := (disk.below place).filter fun (other, entry) => kept other entry
      let paths := files.map fun (other, _) => String.intercalate "/" (path :: other)
      paths.mergeSort fun a b => a ≤ b
    else [path]

/-- The number of octets that are read at a time. -/
def blockLength : Nat := 98304

/-- What a search leaves of the input: it may stop at a selected line. -/
def unreadBy (task : Task) (line : CommandLine) (wanted : Wanted) (octets : Octets) : Octets :=
  let stops := line.value? 'm'
  if stops.isNone ∧ !line.hasAny "qlL" then []
  else
    let most := if line.hasAny "qlL" then 1 else countOr 0 stops
    let rows := rowsOf wanted (line.has 'v') octets
    let seen := upToCount most rows
    match rows[seen.length]? with
    | none => []
    | some row =>
      let rest := octets.drop row.offset
      if line.hasAny "qlL" then task.behindBlocks rest blockLength
      else task.leftOver rest blockLength

/-- Searches what a word names. -/
def searchWord (task : Task) (line : CommandLine) (wanted : Wanted) (named : Bool)
    (search : Search) (word : String) : Search :=
  let complain (reason : String) : Search :=
    let search := { search with failed := true }
    if line.has 's' then search
    else { search with report := search.report.warns (task.name ++ ": " ++ word ++ ": " ++ reason) }
  match task.octetsOf word with
  | .ok octets =>
    let input := isInputName word
    let shown := if word = "-" then "(standard input)" else word
    let search := searchInput line wanted shown named octets search
    if input then
      { search with report := { search.report with unread := unreadBy task line wanted octets } }
    else search
  | .error error => complain error.reason

/-- Searches the inputs of a command line. -/
def searchAll (task : Task) (line : CommandLine) (wanted : Wanted) (words : List String) : Report :=
  let recursive := line.hasAny "rR"
  let words := if words.isEmpty then [if recursive then "." else "-"] else words
  let paths :=
    if recursive then
      words.flatMap fun word => if word = "-" then [word] else filesBelow line task.disk word
    else words
  let paths :=
    if recursive ∧ words = ["."] then
      paths.map fun path => ((Text.after? "./".toList path.toList).map String.ofList).getD path
    else paths
  let several := words.length > 1 || (recursive && words.any task.disk.holdsDirectory)
  let named := match line.lastOf "Hh" with
    | some 'H' => true
    | some _ => false
    | none => several
  let search := paths.foldl (searchWord task line wanted named) { report := task.idle }
  let status :=
    if search.failed && !(line.has 'q' && search.found) then 2
    else if search.found then 0 else 1
  { search.report with status := status }

/-- The patterns that a command line gives, and the words behind them. -/
def patternsOf (task : Task) (line : CommandLine) :
    Except String (Option (List (List Char)) × List String) := do
  let written := (line.allValues 'e').map charsOfText
  let read ← (line.allValues 'f').mapM fun word =>
    match task.octetsOf word with
    | .ok octets => .ok ((linesOf octets).map charsOf)
    | .error error => .error (word ++ ": " ++ error.reason)
  if line.hasAny "ef" then return (some (written ++ read.flatten), line.operands)
  else
    match line.operands with
    | [] => return (none, [])
    | pattern :: words => return (some [charsOfText pattern], words)

/-- How the program is called. -/
def usage (task : Task) : String :=
  "Usage: " ++ task.name ++ " [OPTION]... PATTERNS [FILE]..."

/-- Arguments whose numbers of lines of context have the letter that they stand for. -/
def withContextLetter (arguments : List String) : List String :=
  arguments.map fun word =>
    match word.toList with
    | '-' :: digits =>
      if !digits.isEmpty ∧ digits.all isDigit then "-C" ++ String.ofList digits else word
    | _ => word

/-- Searches lines. -/
def run (kind : Option Char) : Utility := fun task =>
  let task := { task with arguments := withContextLetter task.arguments }
  let misused (report : Report) : Report := (report.warns (usage task)).warns task.advice
  match task.options rules with
  | .error fault => misused (task.fails fault.message 2)
  | .ok line =>
    let line := match kind with
      | some letter => { line with letters := letter :: line.letters }
      | none => line
    match patternsOf task line with
    | .error reason => task.fails reason 2
    | .ok (none, _) => misused { task.idle with status := 2 }
    | .ok (some patterns, words) =>
      match wantedOf line patterns with
      | .error fault => task.fails fault.message 2
      | .ok wanted => searchAll task line wanted words

end Grep

/-- Searches lines. -/
def grep : Utility := Grep.run none

/-- Searches lines for extended expressions. -/
def egrep : Utility := fun task =>
  let report := Grep.run (some 'E') task
  { report with
    writes := report.writes ++
      [(2, Utf8.ofString (task.name ++ ": warning: " ++ task.name ++
        " is obsolescent; using grep -E\n"))] }

/-- Searches lines for texts. -/
def fgrep : Utility := fun task =>
  let report := Grep.run (some 'F') task
  { report with
    writes := report.writes ++
      [(2, Utf8.ofString (task.name ++ ": warning: " ++ task.name ++
        " is obsolescent; using grep -F\n"))] }

end HistoryExpansion.Shell.Utility
