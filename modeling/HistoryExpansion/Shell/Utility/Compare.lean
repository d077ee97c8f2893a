import HistoryExpansion.Shell.Utility.Difference
import HistoryExpansion.Shell.Utility.Files
import HistoryExpansion.Shell.Utility.Grep
import HistoryExpansion.Shell.Utility.Text

/-!
# Comparing files

Programs that say where two files differ: at which octet, or by which lines.
-/

namespace HistoryExpansion.Shell.Utility

/-! ## Octets -/

/-- A number of octets, which may have a letter for its unit. -/
def skippedOctets? (word : String) : Option Nat :=
  sizeIn? word.toList

/-- The place of the first octet at which two texts differ, and the number of line breaks before. -/
def firstOctetDifference : (place lines : Nat) → Octets → Octets →
    Option (Nat × Nat × UInt8 × UInt8)
  | place, lines, a :: as, b :: bs =>
    if a = b then firstOctetDifference (place + 1) (if a = 0x0A then lines + 1 else lines) as bs
    else some (place, lines, a, b)
  | _, _, _, _ => none

/-- A number in base eight, filled with blanks. -/
def octalColumn (octet : UInt8) : String :=
  padded 3 (String.ofList (Nat.toDigits 8 octet.toNat))

/-- An octet as it can be seen. -/
def seenOctet (octet : UInt8) : String :=
  String.ofList (Utf8.decodeLossy (visible octet))

/-- Says at which octet two inputs differ. -/
def cmp : Utility := fun task =>
  let misused (message : String) : Report :=
    (task.fails message 2).warns (task.name ++ ": " ++ task.advice)
  let rules : OptionRules :=
    { flags := "blsv", takers := "in"
      names := [("print-bytes", 'b'), ("ignore-initial", 'i'), ("verbose", 'l'), ("bytes", 'n'),
        ("quiet", 's'), ("silent", 's')] }
  match task.options rules with
  | .error fault => misused fault.message
  | .ok line =>
    match line.operands with
    | [] => misused ("missing operand after " ++
        quotedArgument (task.arguments.getLast?.getD task.name))
    | _ :: _ :: _ :: _ :: extra :: _ => misused ("extra operand " ++ quotedArgument extra)
    | first :: others =>
      let second := others.headD "-"
      let skips := (others.drop 1) ++ ((line.value? 'i').map fun word =>
        (Text.splitAtEach ':' word.toList).map String.ofList).getD []
      match skips.find? fun word => (skippedOctets? word).isNone with
      | some word => misused ("invalid --ignore-initial value " ++ quotedArgument word)
      | none =>
        let counts := skips.filterMap skippedOctets?
        let skip (i : Nat) : Nat := (counts[i]?).getD (counts.headD 0)
        let limit := (line.value? 'n').bind skippedOctets?
        match task.octetsOf first, task.octetsOf second with
        | .error error, _ =>
          if line.has 's' ∧ error = .notFound then { task.idle with status := 2 }
          else task.fails (first ++ ": " ++ error.reason) 2
        | _, .error error => task.fails (second ++ ": " ++ error.reason) 2
        | .ok a, .ok b =>
          let idle := if isInputName first ∨ isInputName second then { task.idle with unread := [] }
            else task.idle
          let cut (octets : Octets) (i : Nat) : Octets :=
            let rest := octets.drop (if counts.length = 1 ∧ i = 1 ∧ !line.has 'i' then 0
              else skip i)
            (limit.map rest.take).getD rest
          let (a, b) := (cut a 0, cut b 1)
          let (shorter, size, text) :=
            if a.length < b.length then (first, a.length, a) else (second, b.length, b)
          let atEnd (report : Report) : Report :=
            if a.length = b.length then report
            else if line.has 's' then { report with status := 1 }
            else
              let breaks := text.count 0x0A
              let place :=
                if size = 0 then "which is empty"
                else if line.has 'l' then "after byte " ++ toString size
                else if text.getLast? = some 0x0A then
                  "after byte " ++ toString size ++ ", line " ++ toString breaks
                else "after byte " ++ toString size ++ ", in line " ++ toString (breaks + 1)
              report.complains (task.name ++ ": EOF on " ++ shorter ++ " " ++ place)
          if line.has 'l' ∧ !line.has 's' then
            let width := (toString (min a.length b.length)).length
            let rows := (a.zip b).zipIdx.filter fun ((a, b), _) => a ≠ b
            let text := rows.map fun ((a, b), i) =>
              let start := padded width (toString (i + 1)) ++ " "
              if line.has 'b' then
                start ++ octalColumn a ++ " " ++ filledRight' 4 (seenOctet a) ++ " " ++
                  octalColumn b ++ " " ++ seenOctet b ++ "\n"
              else start ++ octalColumn a ++ " " ++ octalColumn b ++ "\n"
            let report := Report.prints idle (String.join text)
            atEnd (if rows.isEmpty then report else { report with status := 1 })
          else
            match firstOctetDifference 1 1 a b with
            | none => atEnd idle
            | some (place, row, x, y) =>
              if line.has 's' then { idle with status := 1 }
              else
                let unit := if line.has 'b' then "byte" else "char"
                let more := if line.has 'b' then
                    " is " ++ octalColumn x ++ " " ++ seenOctet x ++ " " ++ octalColumn y ++ " " ++
                      seenOctet y
                  else ""
                { Report.prints idle (first ++ " " ++ second ++ " differ: " ++ unit ++ " " ++
                    toString place ++ ", line " ++ toString row ++ more ++ "\n") with status := 1 }
where
  /-- A text filled with blanks on its right. -/
  filledRight' (width : Nat) (text : String) : String :=
    text ++ String.ofList (List.replicate (width - text.length) ' ')

/-! ## Lines -/

/-- How differences are shown. -/
inductive DifferenceStyle where
  /-- The lines that are removed and added, with commands that say where. -/
  | plain
  /-- In one column, with some lines around them. -/
  | unified (context : Nat)
  /-- The old lines and then the new ones, with some lines around them. -/
  | context (context : Nat)
  /-- As commands of a line editor. -/
  | commands
  /-- As commands that count lines of the old file. -/
  | counted
  /-- Side by side, in so many columns. -/
  | sides (width : Nat)
  deriving DecidableEq

/-- How many lines that stay are shown around differences. -/
def DifferenceStyle.around : DifferenceStyle → Nat
  | .unified count => count
  | .context count => count
  | _ => 0

/-- What files are compared for and how that is shown. -/
structure Comparison where
  /-- How differences are shown. -/
  style : DifferenceStyle
  /-- The form in which lines are compared. -/
  normal : Octets → Octets
  /-- Whether a line does not count. -/
  isIdle : Octets → Bool
  /-- Whether it is only said that files differ. -/
  brief : Bool
  /-- Whether it is said that files are the same. -/
  tellsSame : Bool
  /-- Whether a file that is not there counts as empty. -/
  newFiles : Bool
  /-- Whether directories within directories are compared. -/
  recursive : Bool
  /-- Whether all files are texts. -/
  allTexts : Bool
  /-- Names in place of those of the files. -/
  labels : List String
  /-- The options as they were given. -/
  options : List String

/-- The lines of a text, each with its line break if it has one. -/
abbrev TextLines := Array Octets

/-- The number of lines that two lists start with. -/
def sharedStart : List Octets → List Octets → Nat
  | a :: as, b :: bs => if a = b then sharedStart as bs + 1 else 0
  | _, _ => 0

/-- The differences between two texts. What they start and end with alike is left out, but for some
lines. -/
def Comparison.differences (comparison : Comparison) (a b : TextLines) : List Difference :=
  let keep := comparison.style.around
  let start := sharedStart a.toList b.toList - keep
  let restA := a.toList.drop start
  let restB := b.toList.drop start
  let stop := sharedStart restA.reverse restB.reverse - keep
  let middleA := restA.take (restA.length - stop)
  let middleB := restB.take (restB.length - stop)
  let normals := (middleA ++ middleB).map comparison.normal
  let classes := normals.eraseDups
  let classOf (line : Octets) : Nat := classes.findIdx (· == comparison.normal line)
  (Difference.between (middleA.map classOf).toArray (middleB.map classOf).toArray).map fun found =>
    { found with first := found.first + start, second := found.second + start }

/-- The lines of a stretch. -/
def stretch (lines : TextLines) (start count : Nat) : List Octets :=
  (lines.toList.drop start).take count

/-- Whether a difference does not count. -/
def Comparison.skips (comparison : Comparison) (a b : TextLines) (found : Difference) : Bool :=
  (stretch a found.first found.removed).all comparison.isIdle &&
    (stretch b found.second found.added).all comparison.isIdle

/-- A line behind a mark, with a note if it has no line break. -/
def markedLine (mark : String) (line : Octets) : Octets :=
  Utf8.ofString mark ++ line ++
    (if line.getLast? = some 0x0A then []
      else Utf8.ofString "\n\\ No newline at end of file\n")

/-- The numbers of a stretch of lines, or of the line before it if it is empty. -/
def stretchNumbers (start count : Nat) : String :=
  if count = 0 then toString start
  else if count = 1 then toString (start + 1)
  else toString (start + 1) ++ "," ++ toString (start + count)

/-- The letter of the command that a difference is. -/
def Difference.letter (found : Difference) : String :=
  if found.removed = 0 then "a" else if found.added = 0 then "d" else "c"

/-- A difference as a command with the lines that are removed and added. -/
def plainDifference (a b : TextLines) (found : Difference) : Octets :=
  Utf8.ofString (stretchNumbers found.first found.removed ++ Difference.letter found ++
      stretchNumbers found.second found.added ++ "\n") ++
    (stretch a found.first found.removed).flatMap (markedLine "< ") ++
    (if found.removed > 0 ∧ found.added > 0 then Utf8.ofString "---\n" else []) ++
    (stretch b found.second found.added).flatMap (markedLine "> ")

/-- Differences in groups with few lines between them. -/
def groupedDifferences (gap : Nat) : List Difference → List (List Difference)
  | [] => []
  | first :: rest =>
    match groupedDifferences gap rest, rest with
    | group :: groups, next :: _ =>
      if next.first - (first.first + first.removed) ≤ gap then (first :: group) :: groups
      else [first] :: group :: groups
    | groups, _ => [first] :: groups

/-- The stretches of both texts that a group of differences covers, with some lines around them. -/
def coveredBy (context : Nat) (a b : TextLines) (group : List Difference) : Difference :=
  match group.head?, group.getLast? with
  | some first, some last =>
    let lead := min context first.first
    let start := first.first - lead
    let start' := first.second - lead
    let stop := min a.size (last.first + last.removed + context)
    let stop' := min b.size (last.second + last.added + context)
    ⟨start, stop - start, start', stop' - start'⟩
  | _, _ => ⟨0, 0, 0, 0⟩

/-- The numbers of a stretch in the heading of a group in one column. -/
def unifiedNumbers (start count : Nat) : String :=
  if count = 0 then toString start ++ ",0"
  else if count = 1 then toString (start + 1)
  else toString (start + 1) ++ "," ++ toString count

/-- A group of differences in one column. -/
def unifiedGroup (context : Nat) (a b : TextLines) (group : List Difference) : Octets :=
  let covered := coveredBy context a b group
  let heading := "@@ -" ++ unifiedNumbers covered.first covered.removed ++ " +" ++
    unifiedNumbers covered.second covered.added ++ " @@\n"
  let (body, at') := group.foldl
    (fun ((body, here) : Octets × Nat) found =>
      (body ++ (stretch a here (found.first - here)).flatMap (markedLine " ") ++
          (stretch a found.first found.removed).flatMap (markedLine "-") ++
          (stretch b found.second found.added).flatMap (markedLine "+"),
        found.first + found.removed))
    (([] : Octets), covered.first)
  Utf8.ofString heading ++ body ++
    (stretch a at' (covered.first + covered.removed - at')).flatMap (markedLine " ")

/-- The numbers of a stretch in the heading of half a group. -/
def contextNumbers (start count : Nat) : String :=
  if count ≤ 1 then toString (start + count)
  else toString (start + 1) ++ "," ++ toString (start + count)

/-- A group of differences as old lines and new ones. -/
def contextGroup (context : Nat) (a b : TextLines) (group : List Difference) : Octets :=
  let covered := coveredBy context a b group
  let half (lines : TextLines) (start count : Nat) (mark : String)
      (part : Difference → Nat × Nat × Bool) : Octets :=
    let (body, at') := group.foldl
      (fun ((body, here) : Octets × Nat) found =>
        let (first, size, isChange) := part found
        (body ++ (stretch lines here (first - here)).flatMap (markedLine "  ") ++
            (stretch lines first size).flatMap (markedLine (if isChange then "! " else mark)),
          first + size))
      (([] : Octets), start)
    body ++ (stretch lines at' (start + count - at')).flatMap (markedLine "  ")
  let isChange (found : Difference) : Bool := found.removed > 0 && found.added > 0
  let old := if group.any (·.removed > 0) then
      half a covered.first covered.removed "- " fun found =>
        (found.first, found.removed, isChange found)
    else []
  let new := if group.any (·.added > 0) then
      half b covered.second covered.added "+ " fun found =>
        (found.second, found.added, isChange found)
    else []
  Utf8.ofString ("***************\n*** " ++ contextNumbers covered.first covered.removed ++
      " ****\n") ++ old ++
    Utf8.ofString ("--- " ++ contextNumbers covered.second covered.added ++ " ----\n") ++ new

/-- Differences as commands of a line editor, the last one first. -/
def commandDifference (a b : TextLines) (found : Difference) : Octets :=
  let _ := a
  Utf8.ofString (stretchNumbers found.first found.removed ++ Difference.letter found ++ "\n") ++
    (if found.added = 0 then []
      else (stretch b found.second found.added).flatMap (fun line =>
        if line.getLast? = some 0x0A then line else line ++ [0x0A]) ++ Utf8.ofString ".\n")

/-- A difference as commands that count lines of the old file. -/
def countedDifference (a b : TextLines) (found : Difference) : Octets :=
  let _ := a
  (if found.removed = 0 then []
    else Utf8.ofString ("d" ++ toString (found.first + 1) ++ " " ++ toString found.removed ++
      "\n")) ++
    (if found.added = 0 then []
      else
        Utf8.ofString ("a" ++ toString (found.first + found.removed) ++ " " ++
          toString found.added ++ "\n") ++ (stretch b found.second found.added).flatten)

/-- Tabs and blanks from one column to another. -/
def tabbed : (fuel : Nat) → (start stop : Nat) → Octets
  | 0, _, _ => []
  | fuel + 1, start, stop =>
    let next := start + 8 - start % 8
    if next ≤ stop then 0x09 :: tabbed fuel next stop
    else List.replicate (stop - start) 0x20

/-- A line next to another one, either of which may lack. -/
def sideRow (width : Nat) (mark : Char) (left right : Option Octets) : Octets :=
  let offset := (width + 11) / 16 * 8
  let half := min (offset - 3) (width - offset)
  let second := if half = 0 then width else offset
  let body (line : Octets) : Octets := (line.filter (· ≠ 0x0A)).take half
  let ends (line : Option Octets) : Bool := line.any fun line => line.getLast? == some 0x0A
  let text := (left.map body).getD []
  let column := text.length
  let mark := if mark = '|' ∧ ends left ≠ ends right then (if ends left then '/' else '\\')
    else mark
  let (marks, column) :=
    if mark = ' ' then ([], column)
    else
      let place := (half + second - 1) / 2
      (tabbed 40 column place ++ Utf8.encodeChar mark, place + 1)
  let behind := match right with
    | some line => if (body line).isEmpty then [] else tabbed 40 column second ++ body line
    | none => []
  text ++ marks ++ behind ++ (if ends left ∨ ends right then [0x0A] else [])

/-- All lines of two texts side by side. -/
def sideBySide (width : Nat) (a b : TextLines) (found : List Difference) : Octets :=
  let same (start start' count : Nat) : Octets :=
    ((stretch a start count).zip (stretch b start' count)).flatMap fun (left, right) =>
      sideRow width ' ' (some left) (some right)
  let (rows, here, here') := found.foldl
    (fun ((rows, here, here') : Octets × Nat × Nat) found =>
      let old := stretch a found.first found.removed
      let new := stretch b found.second found.added
      let paired := (old.zip new).flatMap fun (left, right) =>
        sideRow width '|' (some left) (some right)
      let gone := (old.drop new.length).flatMap fun line => sideRow width '<' (some line) none
      let come := (new.drop old.length).flatMap fun line => sideRow width '>' none (some line)
      (rows ++ same here here' (found.first - here) ++ paired ++ gone ++ come,
        found.first + found.removed, found.second + found.added))
    (([] : Octets), 0, 0)
  rows ++ same here here' (a.size - here)

/-- The heading of a file: its name and its time, or its label. -/
def fileHeading (disk : Disk) (label : Option String) (path : String) : String :=
  match label with
  | some label => label
  | none =>
    let time := match disk.locate path with
      | .ok place => disk.time place
      | .error _ => disk.now
    path ++ "\t" ++ (momentOf time).formatted "%Y-%m-%d %H:%M:%S.%N %z"

/-- The differences between two texts as they are shown. -/
def Comparison.shown (comparison : Comparison) (disk : Disk) (first second : String)
    (a b : TextLines)
    (found : List Difference) : Octets :=
  let headings (mark mark' : String) : Octets :=
    Utf8.ofString (mark ++ fileHeading disk comparison.labels.head? first ++ "\n" ++ mark' ++
      fileHeading disk (comparison.labels[1]?) second ++ "\n")
  match comparison.style with
  | .plain => found.flatMap (plainDifference a b)
  | .commands => found.reverse.flatMap (commandDifference a b)
  | .counted => found.flatMap (countedDifference a b)
  | .sides width => sideBySide width a b found
  | .unified context =>
    headings "--- " "+++ " ++
      (groupedDifferences (2 * context) found).flatMap (unifiedGroup context a b)
  | .context context =>
    headings "*** " "--- " ++
      (groupedDifferences (2 * context) found).flatMap (contextGroup context a b)

/-- Compares two files whose content is at hand. -/
def Comparison.compareTexts (comparison : Comparison) (heading : String) (first second : String)
    (a b : Octets) (report : Report) : Report :=
  let differs (report : Report) : Report := { report with status := max report.status 1 }
  let same (report : Report) : Report :=
    if comparison.tellsSame then
      Report.prints report ("Files " ++ first ++ " and " ++ second ++ " are identical\n")
    else report
  let isBinary := (a.contains 0 || b.contains 0) && !comparison.allTexts
  if a = b then
    match comparison.style with
    | .sides width =>
      if comparison.brief then same report
      else
        let lines := (brokenLinesOf a).toArray
        same (report.adds (sideBySide width lines lines []))
    | _ => same report
  else if isBinary then
    differs (Report.prints report
      ((if comparison.brief then "Files " else "Binary files ") ++ first ++ " and " ++ second ++
        " differ\n"))
  else
    let linesA := (brokenLinesOf a).toArray
    let linesB := (brokenLinesOf b).toArray
    let all := comparison.differences linesA linesB
    let found := all.filter (!comparison.skips linesA linesB ·)
    let isSides : Bool := match comparison.style with
      | .sides _ => true
      | _ => false
    if found.isEmpty then
      if isSides ∧ !comparison.brief then
        same (report.adds (comparison.shown report.disk first second linesA linesB all))
      else same report
    else if comparison.brief then
      differs (Report.prints report ("Files " ++ first ++ " and " ++ second ++ " differ\n"))
    else
      let report := Report.prints report heading
      let report := report.adds (comparison.shown report.disk first second linesA linesB found)
      let lacking := if comparison.style = .commands then
          [(first, linesA), (second, linesB)].filter fun (_, lines) =>
            (lines.back?).any fun line => line.getLast? ≠ some 0x0A
        else []
      lacking.foldl
        (fun report (name, _) =>
          report.complains ("diff: " ++ name ++ ": No newline at end of file\n") 2)
        (differs report)

/-- The names of a kind of entry. -/
def comparedKind : Entry → String
  | .directory => "a directory"
  | .link _ => "a symbolic link"
  | .device _ => "a character special file"
  | .file [] => "a regular empty file"
  | _ => "a regular file"

/-- Compares the files of two directories. -/
def Comparison.compareDirectories (comparison : Comparison) (task : Task) : (fuel : Nat) →
    (first second : String) → Report → Report
  | 0, _, _, report => report
  | fuel + 1, first, second, report =>
    let disk := report.disk
    let namesIn (path : String) : List String :=
      match disk.locate path with
      | .ok place => disk.names place
      | .error _ => []
    let inFirst := namesIn first
    let inSecond := namesIn second
    let names := ((inFirst ++ inSecond).eraseDups).mergeSort fun a b => a ≤ b
    let below (path name : String) : String :=
      if path.endsWith "/" then path ++ name else path ++ "/" ++ name
    names.foldl
      (fun report name =>
        let a := below first name
        let b := below second name
        let only (path : String) (report : Report) : Report :=
          { Report.prints report ("Only in " ++ path ++ ": " ++ name ++ "\n") with
            status := max report.status 1 }
        let entryA := (disk.find a).toOption
        let entryB := (disk.find b).toOption
        let content (entry : Option Entry) : Octets := (entry.bind Entry.content?).getD []
        let heading := String.intercalate " " ("diff" :: comparison.options ++ [a, b]) ++ "\n"
        let isDirectory (entry : Option Entry) : Bool := entry == some .directory
        if !comparison.newFiles ∧ !inSecond.contains name then only first report
        else if !comparison.newFiles ∧ !inFirst.contains name then only second report
        else if (isDirectory entryA || isDirectory entryB) ∧
            (isDirectory entryA || entryA.isNone) ∧ (isDirectory entryB || entryB.isNone) then
          if comparison.recursive then comparison.compareDirectories task fuel a b report
          else if entryA.isSome ∧ entryB.isSome then
            Report.prints report ("Common subdirectories: " ++ a ++ " and " ++ b ++ "\n")
          else only (if entryA.isSome then first else second) report
        else if isDirectory entryA ∨ isDirectory entryB then
          { Report.prints report ("File " ++ a ++ " is " ++ ((entryA.map comparedKind).getD "") ++
              " while file " ++ b ++ " is " ++ ((entryB.map comparedKind).getD "") ++ "\n") with
            status := max report.status 1 }
        else comparison.compareTexts heading a b (content entryA) (content entryB) report)
      report

/-- A line without its blanks, or with each run of them as one. -/
def withoutBlanks (all : Bool) (line : Octets) : Octets :=
  let isBlank (octet : UInt8) : Bool := octet == 0x20 || (0x09 ≤ octet && octet ≤ 0x0D)
  if all then line.filter (!isBlank ·)
  else
    let body := (line.reverse.dropWhile isBlank).reverse
    (body.foldl
      (fun ((done, was) : Octets × Bool) octet =>
        if isBlank octet then (if was then (done, true) else (done ++ [0x20], true))
        else (done ++ [octet], false))
      (([] : Octets), false)).1

/-- The options of the program that compares lines. -/
def comparisonRules : OptionRules where
  flags := "abBcdeEinNqrstTuwyp"
  takers := "UCILDWx"
  names := [("text", 'a'), ("ignore-space-change", 'b'), ("ignore-blank-lines", 'B'),
    ("minimal", 'd'), ("ed", 'e'), ("ignore-case", 'i'), ("rcs", 'n'), ("new-file", 'N'),
    ("brief", 'q'), ("recursive", 'r'), ("report-identical-files", 's'), ("ignore-all-space", 'w'),
    ("side-by-side", 'y'), ("label", 'L'), ("width", 'W'), ("normal", 't'), ("exclude", 'x'),
    ("ignore-matching-lines", 'I'), ("color", 'O'), ("unified", 'o'), ("context", 'k'),
    ("strip-trailing-cr", 'T')]
  optional := "Ook"

/-- The comparison that a command line asks for. -/
def comparisonOf (task : Task) (line : CommandLine) : Except String Comparison := do
  let number (letter : Char) (usual : Nat) : Except String Nat :=
    match line.value? letter with
    | none => .ok usual
    | some word =>
      if !word.isEmpty ∧ word.toList.all isDigit then .ok (decimal word.toList)
      else .error ("invalid context length " ++ quotedArgument word)
  let style ←
    if line.has 'U' then (number 'U' 3).map .unified
    else if line.has 'o' then (number 'o' 3).map .unified
    else if line.has 'C' then (number 'C' 3).map .context
    else if line.has 'k' then (number 'k' 3).map .context
    else if line.has 'u' then .ok (.unified 3)
    else if line.has 'c' then .ok (.context 3)
    else if line.has 'e' then .ok .commands
    else if line.has 'n' then .ok .counted
    else if line.has 'y' then (number 'W' 130).map .sides
    else .ok .plain
  let lower (line : Octets) : Octets :=
    line.map fun octet => if 0x41 ≤ octet ∧ octet ≤ 0x5A then octet + 0x20 else octet
  let spaced := line.hasAny "bw"
  let ignored ← (line.allValues 'I').mapM fun word =>
    match Regex.parse { extended := false } (charsOfText word) with
    | .ok regex => .ok regex
    | .error fault => .error (quoted word ++ ": " ++ fault.message)
  let isBlank (text : Octets) : Bool := (withoutBlanks spaced text).all (· == 0x0A)
  let wanted : Grep.Wanted := { regexes := ignored, options := {}, accepts := fun _ _ => true }
  return {
    style := style
    normal := fun text =>
      let text := if line.has 'i' then lower text else text
      let text := if line.has 'T' ∧ text.reverse.take 2 = [0x0A, 0x0D] then
          text.dropLast.dropLast ++ [0x0A] else text
      if line.has 'w' then withoutBlanks true text
      else if line.has 'b' then withoutBlanks false text
      else text
    isIdle := fun text =>
      (line.has 'B' && isBlank text) ||
        (!ignored.isEmpty &&
          (wanted.find? none (charsOf (text.filter (· ≠ 0x0A)))).isSome)
    brief := line.has 'q'
    tellsSame := line.has 's'
    newFiles := line.has 'N'
    recursive := line.has 'r'
    allTexts := line.has 'a'
    labels := line.allValues 'L'
    options := task.arguments.filter fun word => word.startsWith "-" && word ≠ "-" }

/-- Says by which lines two files differ. -/
def diff : Utility := fun task =>
  let misused (message : String) : Report :=
    (task.fails message 2).warns (task.name ++ ": " ++ task.advice)
  match task.options comparisonRules with
  | .error fault => misused fault.message
  | .ok line =>
    match line.operands, comparisonOf task line with
    | _, .error message => misused message
    | [], _ => misused ("missing operand after " ++
        quotedArgument (task.arguments.getLast?.getD task.name))
    | [word], _ => misused ("missing operand after " ++ quotedArgument word)
    | _ :: _ :: extra :: _, _ => misused ("extra operand " ++ quotedArgument extra)
    | [first, second], .ok comparison =>
      let disk := task.disk
      let isDirectory (path : String) : Bool := !isInputName path && disk.holdsDirectory path
      let base (path : String) : String :=
        ((Disk.withoutTrailingSlashes (Path.segments path)).getLast?).getD ""
      let into (path other : String) : String :=
        if path.endsWith "/" then path ++ base other else path ++ "/" ++ base other
      let idle := if isInputName first ∨ isInputName second then { task.idle with unread := [] }
        else task.idle
      if isDirectory first ∧ isDirectory second then
        if (disk.locate first).toOption == (disk.locate second).toOption then idle
        else comparison.compareDirectories task (disk.entries.length + 2) first second idle
      else
        let a := if isDirectory first then into first second else first
        let b := if isDirectory second then into second first else second
        let contentOf (path : String) : Except DiskError Octets :=
          match task.octetsOf path with
          | .error .notFound => if comparison.newFiles then .ok [] else .error .notFound
          | found => found
        let failed := [a, b].filterMap fun path =>
          match contentOf path with
          | .error error => some (path, error)
          | .ok _ => none
        match contentOf a, contentOf b with
        | .ok old, .ok new => comparison.compareTexts "" a b old new idle
        | _, _ =>
          failed.foldl
            (fun (report : Report) (path, error) =>
              report.complains (task.name ++ ": " ++ path ++ ": " ++ error.reason) 2)
            idle

end HistoryExpansion.Shell.Utility
