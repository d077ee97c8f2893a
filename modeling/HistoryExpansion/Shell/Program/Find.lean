import HistoryExpansion.Shell.Program.Find.Expression
import HistoryExpansion.Shell.Program.Start

/-!
# Finding files

A search goes through directories from some paths on. Each file that it meets is put to an
expression, which says what is done with it.
-/

namespace HistoryExpansion.Shell

namespace Find

/-- A file that a search meets. -/
structure Found where
  /-- The path that the search started from. -/
  start : String
  /-- Its path. -/
  path : String
  /-- Its place. -/
  place : Location
  /-- What stands there. -/
  entry : Entry
  /-- Its distance from where the search started. -/
  depth : Nat

/-- How a search stands. -/
structure Progress where
  /-- Whether what is below the file at hand is left out. -/
  pruned : Bool := false
  /-- Whether the search ends. -/
  stopped : Bool := false
  /-- Whether something went wrong. -/
  failed : Bool := false
  /-- The paths that wait for a program, by its words and the directory that it is run in. -/
  waiting : List (List String × Option String × List String) := []
  /-- What was written to files. -/
  files : List (String × Octets) := []
  /-- The directives that were complained about. -/
  warned : List Char := []

/-- Something that a search does. -/
abbrev Step := StateT Progress Effect

/-- Notes that something went wrong, and says what. -/
def complainOf (message : String) : Step Unit := do
  complainFor "find" message
  modify fun progress => { progress with failed := true }

/-- The last part of a path, slashes behind it apart. -/
def nameOf (path : String) : String :=
  if path ≠ "" ∧ path.toList.all (· = '/') then "/"
  else ((Disk.withoutTrailingSlashes (Path.segments path)).getLast?).getD ""

/-- A path without its last part. -/
def directoryOf (path : String) : String :=
  let chars := path.toList
  if chars.contains '/' then
    String.ofList ((chars.reverse.dropWhile (· ≠ '/')).drop 1).reverse
  else "."

/-- Whether a text fits a pattern. -/
def fits (pattern text : String) (fold : Bool) : Bool :=
  let chars (text : String) : List Char :=
    if fold then text.toList.map Char.toLower else text.toList
  fitsPattern ((chars pattern).map fun c => ⟨c, false⟩) (chars text)

/-- The letter of the kind of an entry, as it is asked for. -/
def kindLetter (entry : Entry) : Char :=
  match Entry.letter entry with
  | '-' => 'f'
  | c => c

/-- Whether a test holds of a file. -/
def Test.holds (test : Test) (disk : Disk) (found : Found) : Bool :=
  match test with
  | .name pattern whole fold => fits pattern (if whole then found.path else nameOf found.path) fold
  | .regex shape fold =>
    (shape.findAccepted? { fold := fold } Regex.isWholeText none
      (Utility.charsOfText found.path)).isSome
  | .target pattern fold =>
    match found.entry with
    | .link path => fits pattern path fold
    | _ => false
  | .kinds letters => letters.contains (kindLetter found.entry)
  | .size amount unit => amount.holds ((Entry.size found.entry + unit - 1) / unit)
  | .empty =>
    match found.entry with
    | .directory => (disk.names found.place).isEmpty
    | .file content => content.isEmpty
    | _ => false
  | .age amount unit => amount.holds ((disk.now - disk.time found.place) / unit).toNat
  | .newer time => time < disk.time found.place
  | .mode how bits =>
    let mode := disk.mode found.place
    if how = '-' then mode &&& bits == bits
    else if how = '/' then bits == 0 || mode &&& bits != 0
    else mode == bits
  | .links amount => amount.holds (nameCount disk found.place found.entry)
  | .number amount => amount.holds (disk.entries.findIdx (·.1 == found.place) + 2)
  | .same place => place == found.place
  | .access bits => bits == 0 || disk.mode found.place &&& bits != 0
  | .known holds => holds

/-- What a letter of a format stands for. -/
def directive? (disk : Disk) (found : Found) (letter : Char) : Option String :=
  let mode := disk.mode found.place
  match letter with
  | 'p' => some found.path
  | 'f' => some (nameOf found.path)
  | 'h' => some (directoryOf found.path)
  | 'P' =>
    let rest := found.path.toList.drop found.start.length
    some (String.ofList (rest.dropWhile (· = '/')))
  | 'H' => some found.start
  | 'd' => some (toString found.depth)
  | 's' => some (toString (Entry.size found.entry))
  | 'm' => some (String.ofList (Nat.toDigits 8 mode))
  | 'M' => some (modeLetters found.entry mode)
  | 'y' => some (String.ofList [kindLetter found.entry])
  | 'Y' => some (String.ofList [kindLetter found.entry])
  | 'l' => some (match found.entry with
    | .link target => target
    | _ => "")
  | 'u' => some "root"
  | 'g' => some "root"
  | 'U' => some "0"
  | 'G' => some "0"
  | 'n' => some (toString (nameCount disk found.place found.entry))
  | 'i' => some (toString (disk.entries.findIdx (·.1 == found.place) + 2))
  | 'k' => some (toString (Entry.sectors found.entry / 2))
  | 'b' => some (toString (Entry.sectors found.entry))
  | 't' => some ((momentOf (disk.time found.place)).formatted "%a %b %e %H:%M:%S.%N0 %Y")
  | 'a' => some ((momentOf (disk.time found.place)).formatted "%a %b %e %H:%M:%S.%N0 %Y")
  | '%' => some "%"
  | _ => none

/-- A format with what stands for a file, and the letters that stand for nothing. -/
def formatted (disk : Disk) (found : Found) : (fuel : Nat) → List Char → List Char × List Char
  | 0, text => (text, [])
  | _, [] => ([], [])
  | _, '\\' :: 'c' :: _ => ([], [])
  | fuel + 1, '%' :: rest =>
    let signs := rest.takeWhile fun c => isDigit c || c == '-' || c == '.'
    match rest.drop signs.length with
    | c :: d :: behind =>
      if (c = 'T' ∨ c = 'A' ∨ c = 'C') ∧ (d.isAlpha ∨ d = '@' ∨ d = '+') then
        let moment := momentOf (disk.time found.place)
        let text := if d = '@' then moment.formatted "%s.%N0" else
          moment.formatted (String.ofList ['%', d])
        let (more, bad) := formatted disk found fuel behind
        (text.toList ++ more, bad)
      else known fuel signs c (d :: behind)
    | [c] => known fuel signs c []
    | [] => (['%'], [])
  | fuel + 1, c :: rest =>
    let (more, bad) := formatted disk found fuel rest
    (c :: more, bad)
where
  /-- Goes on behind a letter. -/
  known (fuel : Nat) (signs : List Char) (c : Char) (behind : List Char) : List Char × List Char :=
    let (more, bad) := formatted disk found fuel behind
    match directive? disk found c with
    | some text =>
      let width := decimal ((signs.dropWhile (· = '-')).takeWhile isDigit)
      let room := List.replicate (width - text.length) ' '
      (if signs.head? = some '-' then text.toList ++ room ++ more
        else room ++ text.toList ++ more, bad)
    | none => ('%' :: (signs ++ c :: more), c :: bad)

/-- Writes a text to the output, or keeps it for a file. -/
def writeOut (file : Option String) (text : String) : Step Unit :=
  match file with
  | none => do let _ ← write 1 (Utf8.ofString text)
  | some path => modify fun progress =>
      let old := (progress.files.lookup path).getD []
      { progress with
        files := (path, old ++ Utf8.ofString text) :: progress.files.filter (·.1 ≠ path) }

/-- Words with a path in the place of each pair of braces. -/
def withPath (words : List String) (path : String) : List String :=
  words.map fun word => word.replace "\x7b\x7d" path

/-- Runs a program, in a directory if one is named. -/
def launchIn (launch : Launch) (environment : List (String × String)) (directory : Option String)
    (words : List String) : Step Bool := do
  let before ← own
  match directory with
  | none => pure ()
  | some path =>
    match (← diskHere).locate path with
    | .ok place => changeOwn fun own => { own with here := place }
    | .error _ => pure ()
  let run : Effect (Except DiskError Nat) := do
    try launch words environment
    catch
      | .crashed signal => return .ok (128 + signal)
      | flow => throw flow
  let result ← run
  changeOwn fun _ => before
  match result with
  | .ok status => return status == 0
  | .error error =>
    complainFor "find" (quotedAlways (words.headD "") ++ ": " ++ error.reason)
    return false

/-- What is known of a file, in a line. -/
def description (disk : Disk) (found : Found) : String :=
  let filled (width : Nat) (text : String) : String :=
    String.ofList (List.replicate (width - text.length) ' ') ++ text
  let target := match found.entry with
    | .link target => " -> " ++ target
    | _ => ""
  filled 9 (toString (disk.entries.findIdx (·.1 == found.place) + 2)) ++ " " ++
    filled 6 (toString (Entry.sectors found.entry / 2)) ++ " " ++
    modeLetters found.entry (disk.mode found.place) ++ " " ++
    filled 3 (toString (nameCount disk found.place found.entry)) ++ " root     root     " ++
    filled 8 (toString (Entry.size found.entry)) ++ " " ++
    shownTime disk (disk.time found.place) ++ " " ++ found.path ++ target ++ "\n"

/-- Does something with a file. Says whether that went well. -/
def Action.perform (action : Action) (launch : Launch) (environment : List (String × String))
    (found : Found) : Step Bool := do
  match action with
  | .print ending file =>
    writeOut file (found.path ++ ending)
    return true
  | .format text file =>
    let chars := unescaped text.toList
    let (shown, bad) := formatted (← diskHere) found (chars.length + 1) chars
    for c in bad do
      if !(← get).warned.contains c then
        complainFor "find"
          ("warning: unrecognized format directive \x60%" ++ String.ofList [c] ++ "'")
        modify fun progress => { progress with warned := c :: progress.warned }
    writeOut file (String.ofList shown)
    return true
  | .describe =>
    writeOut none (description (← diskHere) found)
    return true
  | .run words within asks =>
    let path := if within then "./" ++ nameOf found.path else found.path
    let directory := if within then some (directoryOf found.path) else none
    let agreed ←
      if !asks then pure true
      else
        let _ ← write 2 (Utf8.ofString ("< " ++ words.headD "" ++ " ... " ++ found.path ++ " > ? "))
        let input ← remaining 0
        let answer := input.takeWhile (· ≠ 0x0A)
        keepUnread 0 (input.drop (answer.length + 1))
        pure (answer.head? == some 0x79 || answer.head? == some 0x59)
    if !agreed then return false
    launchIn launch environment directory (withPath words path)
  | .gather words within =>
    let path := if within then "./" ++ nameOf found.path else found.path
    let directory := if within then some (directoryOf found.path) else none
    modify fun progress =>
      let isSame (entry : List String × Option String × List String) : Bool :=
        entry.1 == words && entry.2.1 == directory
      { progress with
        waiting :=
          if progress.waiting.any isSame then
            progress.waiting.map fun entry =>
              if isSame entry then (entry.1, entry.2.1, path :: entry.2.2) else entry
          else progress.waiting ++ [(words, directory, [path])] }
    return true
  | .delete =>
    let change : Disk.Change :=
      if found.entry = .directory then Utility.removeEmpty found.path
      else Disk.removeFile found.path
    match change (← diskHere) with
    | (.ok (), disk) =>
      modifyThe State fun state => { state with disk := { disk with here := state.disk.here } }
      return true
    | (.error error, _) =>
      complainOf ("cannot delete " ++ quotedAlways found.path ++ ": " ++ error.reason)
      return false
  | .prune =>
    modify fun progress => { progress with pruned := true }
    return true
  | .quit =>
    modify fun progress => { progress with stopped := true }
    return true

/-- Puts a file to an expression. -/
def Expression.evaluate (launch : Launch) (environment : List (String × String)) (found : Found) :
    Expression → Step Bool
  | .test question => do return question.holds (← diskHere) found
  | .act action => action.perform launch environment found
  | .not body => do return !(← evaluate launch environment found body)
  | .and first second => do
    if ← evaluate launch environment found first then
      if (← get).stopped then return true
      evaluate launch environment found second
    else return false
  | .or first second => do
    if ← evaluate launch environment found first then return true
    if (← get).stopped then return false
    evaluate launch environment found second
  | .both first second => do
    let _ ← evaluate launch environment found first
    if (← get).stopped then return true
    evaluate launch environment found second

/-- A path below another one. -/
def pathBelow (path name : String) : String :=
  if path.endsWith "/" then path ++ name else path ++ "/" ++ name

/-- What stands at a path, seen through links or not. -/
def look (through : Bool) (path : String) : Step (Except DiskError (Location × Entry)) := do
  let disk ← diskHere
  let itself : Except DiskError (Location × Entry) := do
    let place ← disk.locateItself path
    match disk.entry? place with
    | some entry => .ok (place, entry)
    | none => .error .notFound
  if !through then return itself
  match disk.locate path with
  | .error _ => return itself
  | .ok place =>
    match disk.entry? place with
    | some entry => return .ok (place, entry)
    | none => return itself

/-- Goes through a file and all below it. -/
def visit (launch : Launch) (environment : List (String × String)) (scope : Scope)
    (expression : Expression) (start : String) : (fuel : Nat) → (depth : Nat) → (path : String) →
    Step Unit
  | 0, _, _ => return
  | fuel + 1, depth, path => do
    if (← get).stopped then return
    match ← look (scope.follows || (depth == 0 && scope.followsStarts)) path with
    | .error error => complainOf (quotedAlways path ++ ": " ++ error.reason)
    | .ok (place, entry) =>
      let found : Found := ⟨start, path, place, entry, depth⟩
      let judge : Step Unit := do
        modify fun progress => { progress with pruned := false }
        if scope.least ≤ depth then
          let _ ← expression.evaluate launch environment found
      if !scope.inner then judge
      let skips := !scope.inner && (← get).pruned
      let isDeep := match scope.most with
        | some most => depth ≥ most
        | none => false
      if entry == .directory && !skips && !isDeep && !(← get).stopped then
        let disk ← diskHere
        match disk.entry? place with
        | some .directory =>
          for name in disk.names place do
            visit launch environment scope expression start fuel (depth + 1) (pathBelow path name)
        | _ => complainOf (quotedAlways path ++ ": " ++ DiskError.notFound.reason)
      if scope.inner && !(← get).stopped then judge

/-- The options before the paths, the paths and the words of the expression. -/
def cutArguments : List String → Scope → Scope × List String × List String
  | "-L" :: rest, scope => cutArguments rest { scope with follows := true }
  | "-P" :: rest, scope => cutArguments rest { scope with follows := false, followsStarts := false }
  | "-H" :: rest, scope => cutArguments rest { scope with followsStarts := true }
  | "--" :: rest, scope => cutArguments rest scope
  | words, scope =>
    let isExpression (word : String) : Bool :=
      (word.startsWith "-" && word.length > 1) || word == "(" || word == "!"
    let paths := words.takeWhile (!isExpression ·)
    (scope, paths, words.drop paths.length)

end Find

/-- Goes through directories and does what an expression says with what it finds. -/
def runFind : Runner := fun launch name arguments environment => do
  let (scope, paths, words) := Find.cutArguments arguments {}
  let disk ← diskHere
  let read : Except Find.Fault (Find.Query × Find.Expression) := do
    let query ← Find.readWords disk (words.length + 1) words { scope := scope }
    return (query, ← Find.expressionOf query.signs)
  match read with
  | .error fault =>
    complainFor name fault.message
    return 1
  | .ok (query, expression) =>
    let expression := if expression.acts then expression
      else .and expression (.act (.print "\n" none))
    let scope := if expression.deletes then { query.scope with inner := true } else query.scope
    let fuel := disk.entries.length + 50
    let walk : Find.Step Unit := do
      for path in if paths.isEmpty then ["."] else paths do
        Find.visit launch environment scope expression path fuel 0 path
      for (words, directory, gathered) in (← get).waiting do
        let went ← Find.launchIn launch environment directory (words ++ gathered.reverse)
        if !went then modify fun progress => { progress with failed := true }
    let ((), progress) ← walk.run {}
    for (path, octets) in progress.files do
      match Disk.write path octets (← diskHere) with
      | (.ok (), disk) => modify fun state =>
          { state with disk := { disk with here := state.disk.here } }
      | (.error error, _) => complainFor name (quotedAlways path ++ ": " ++ error.reason)
    return if progress.failed then 1 else 0

end HistoryExpansion.Shell
