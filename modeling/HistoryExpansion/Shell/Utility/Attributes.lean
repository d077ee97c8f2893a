import HistoryExpansion.Shell.Utility.Files
import HistoryExpansion.Shell.Utility.Shown

/-!
# What is known of files

Programs that change the permissions of files, follow links, and tell what is known of entries.
-/

namespace HistoryExpansion.Shell.Utility

/-! ## Permissions -/

/-- Whether a word that starts with a hyphen is a change of permissions. -/
def isModeWord (word : String) : Bool :=
  match word.toList with
  | '-' :: c :: _ => "rwxXstugo=+,".toList.contains c || isDigit c
  | _ => false

/-- Permissions as a number and as letters. -/
def describedMode (entry : Entry) (mode : Nat) : String :=
  inOctal 4 mode ++ " (" ++ String.ofList ((modeLetters entry mode).toList.drop 1) ++ ")"

/-- Changes the permissions of what a path leads to, and of all below it if that is asked for. -/
def changeModeAt (task : Task) (line : CommandLine) (change : PermissionChange) :
    (fuel : Nat) → (top : Bool) → Report → (path : String) → Report
  | 0, _, report, _ => report
  | fuel + 1, top, report, path =>
    let disk := report.disk
    let isLink : Bool := match disk.findItself path with
      | .ok (.link _) => true
      | _ => false
    let unreachable (report : Report) (error : DiskError) : Report :=
      let told := if line.has 'v' then
          Report.prints report (quotedAlways path ++ " could not be accessed\n") else report
      if line.has 'f' then { told with status := 1 }
      else told.complains (task.name ++ ": cannot access " ++ quotedAlways path ++ ": " ++
        error.reason)
    if isLink ∧ !top then report
    else
      match disk.locate path with
      | .error error => unreachable report error
      | .ok place =>
        match disk.entry? place with
        | none =>
          if isLink ∧ !line.has 'f' then
            report.complains
              (task.name ++ ": cannot operate on dangling symlink " ++ quotedAlways path)
          else unreachable report .notFound
        | some entry =>
          let before := disk.mode place
          let after := change.apply (entry == .directory) disk.mask before
          let report := { report with disk := disk.setMode place after }
          let report :=
            if line.has 'v' ∨ (line.has 'c' ∧ before ≠ after) then
              Report.prints report ("mode of " ++ quotedAlways path ++
                (if before = after then " retained as " ++ describedMode entry before
                  else " changed from " ++ describedMode entry before ++ " to " ++
                    describedMode entry after) ++ "\n")
            else report
          if line.has 'R' ∧ entry = .directory then
            ((disk.names place).mergeSort fun a b => a ≤ b).foldl
              (fun report name =>
                changeModeAt task line change fuel false report (path ++ "/" ++ name))
              report
          else report

/-- Changes permissions. -/
def chmod : Utility := fun task =>
  let marked := task.arguments.find? isModeWord
  let arguments := task.arguments.filter fun word => some word ≠ marked
  let rules : OptionRules :=
    { flags := "Rvcf", takers := "x"
      names := [("recursive", 'R'), ("verbose", 'v'), ("changes", 'c'), ("silent", 'f'),
        ("quiet", 'f'), ("reference", 'x')] }
  { task with arguments := arguments }.withRules rules fun line =>
    let run (change : PermissionChange) (paths : List String) : Report :=
      paths.foldl (changeModeAt task line change (task.disk.entries.length + 2) true) task.idle
    match line.value? 'x', marked, line.operands with
    | some path, _, paths =>
      match task.disk.locate path with
      | .ok place => run (.exactly (task.disk.mode place)) paths
      | .error error =>
        task.fails ("failed to get attributes of " ++ quotedAlways path ++ ": " ++ error.reason)
    | none, none, [] => task.misused "missing operand"
    | none, none, [word] => task.misused ("missing operand after " ++ quotedArgument word)
    | none, some word, [] => task.misused ("missing operand after " ++ quotedArgument word)
    | none, some word, paths =>
      match PermissionChange.read? word with
      | some change => run change paths
      | none => task.misused ("invalid mode: " ++ quotedArgument word)
    | none, none, word :: paths =>
      match PermissionChange.read? word with
      | some change => run change paths
      | none => task.misused ("invalid mode: " ++ quotedArgument word)

/-- Notes owners, of which there is one only. -/
def chown : Utility := fun task =>
  task.withOptions "Rvcfh" "" fun line =>
    match line.operands with
    | [] => task.misused "missing operand"
    | [word] => task.misused ("missing operand after " ++ quotedArgument word)
    | owner :: paths =>
      let names := (Text.splitAtEach ':' owner.toList).map String.ofList
      match names.find? fun name => !(["root", "0", ""].contains name) with
      | some name =>
        let kind := if task.name = "chgrp" ∨ names.head? ≠ some name then "group" else "user"
        task.fails ("invalid " ++ kind ++ ": " ++ quotedArgument owner)
      | none =>
        paths.foldl
          (fun report path =>
            if report.disk.holds path then report
            else
              report.complains (task.name ++ ": cannot access " ++ quotedAlways path ++ ": " ++
                DiskError.notFound.reason))
          task.idle

/-! ## Paths -/

/-- The place that a path leads to: all of it, all but the last part, or none of it must be there.
-/
def canonicalPath (disk : Disk) (line : CommandLine) (path : String) : Except DiskError String :=
  if line.has 'm' then
    match disk.locate path with
    | .ok place => .ok (Path.ofParts true place)
    | .error _ =>
      let start := if Path.isAbsolute path then [] else disk.here
      .ok (Path.ofParts true ((Path.segments path).foldl
        (fun place part =>
          if part = "" ∨ part = "." then place
          else if part = ".." then place.dropLast
          else place ++ [part])
        start))
  else do
    let place ← disk.locate path
    let entry := disk.entry? place
    if entry.isNone ∧ line.has 'e' then .error .notFound
    else if Path.endsInSlash path ∧ entry.isSome ∧ entry ≠ some .directory then
      .error .notDirectory
    else .ok (Path.ofParts true place)

/-- Prints where links lead. -/
def readlink : Utility := fun task =>
  let rules : OptionRules :=
    { flags := "femnqsvz"
      names := [("canonicalize", 'f'), ("canonicalize-existing", 'e'),
        ("canonicalize-missing", 'm'), ("no-newline", 'n'), ("verbose", 'v'), ("zero", 'z')] }
  task.withRules rules fun line =>
    let ending := if line.has 'n' ∧ line.operands.length = 1 then "" else
      if line.has 'z' then "\x00" else "\n"
    forEachOperand task line "missing operand" fun report path =>
      let result : Except DiskError String :=
        if line.hasAny "fem" then canonicalPath task.disk line path
        else
          match task.disk.findItself path with
          | .ok (.link target) => .ok target
          | .ok _ => .error .invalid
          | .error error => .error error
      match result with
      | .ok text => Report.prints report (text ++ ending)
      | .error error =>
        if line.has 'v' then
          report.complains (task.name ++ ": " ++ quoted path ++ ": " ++ error.reason)
        else { report with status := 1 }

/-- The path from one place to another, in parts. -/
def pathBetween (start goal : String) : String :=
  let start := Path.parts start
  let goal := Path.parts goal
  let shared := ((start.zip goal).takeWhile fun (a, b) => a == b).length
  let parts := (start.drop shared).map (fun _ => "..") ++ goal.drop shared
  if parts.isEmpty then "." else String.intercalate "/" parts

/-- Prints the paths of places. -/
def realpath : Utility := fun task =>
  let rules : OptionRules :=
    { flags := "emLPqsz", takers := "rb"
      names := [("canonicalize-existing", 'e'), ("canonicalize-missing", 'm'), ("quiet", 'q'),
        ("strip", 's'), ("no-symlinks", 's'), ("zero", 'z'), ("relative-to", 'r'),
        ("relative-base", 'b')] }
  task.withRules rules fun line =>
    let ending := if line.has 'z' then "\x00" else "\n"
    forEachOperand task line "missing operand" fun report path =>
      match canonicalPath task.disk line path with
      | .ok text =>
        let text :=
          match line.value? 'r' with
          | some start => pathBetween ((canonicalPath task.disk line start).toOption.getD "/") text
          | none => text
        Report.prints report (text ++ ending)
      | .error error =>
        if line.has 'q' then { report with status := 1 }
        else report.complains (task.name ++ ": " ++ quoted path ++ ": " ++ error.reason)

/-! ## Descriptions -/

/-- What a letter of a format of descriptions stands for. -/
def describedField (disk : Disk) (path : String) (place : Location) (entry : Entry)
    (letter : Char) : Option String :=
  let mode := disk.mode place
  let moment := Moment.ofSeconds (startMoment.toSeconds + disk.time place / 1000)
  match letter with
  | 'n' => some path
  | 'N' =>
    match entry with
    | .link target => some (quotedAlways path ++ " -> " ++ quotedAlways target)
    | _ => some (quotedAlways path)
  | 's' => some (toString (Entry.size entry))
  | 'F' => some (Entry.kindName entry)
  | 'a' => some (inOctal 1 mode)
  | 'A' => some (modeLetters entry mode)
  | 'U' => some "root"
  | 'G' => some "root"
  | 'u' => some "0"
  | 'g' => some "0"
  | 'h' => some (toString (nameCount disk place entry))
  | 'b' => some (toString (Entry.sectors entry))
  | 'B' => some "512"
  | 'o' => some (toString blockSize)
  | 'i' => some (toString (1000 + disk.entries.findIdx (·.1 == place)))
  | 'm' => some "/"
  | 'Y' => some (toString moment.toSeconds)
  | 'X' => some (toString moment.toSeconds)
  | 'Z' => some (toString moment.toSeconds)
  | 'W' => some (toString moment.toSeconds)
  | 'y' => some (moment.formatted "%F %T.000000000 +0000")
  | 'x' => some (moment.formatted "%F %T.000000000 +0000")
  | 'z' => some (moment.formatted "%F %T.000000000 +0000")
  | 'w' => some (moment.formatted "%F %T.000000000 +0000")
  | 't' => some "0"
  | 'T' => some "0"
  | 'f' =>
    let kind := match entry with
      | .directory => 0o040000
      | .link _ => 0o120000
      | .device _ => 0o020000
      | _ => 0o100000
    some (String.ofList (Nat.toDigits 16 (kind + mode)))
  | 'd' => some "2049"
  | _ => none

/-- A description in a format, in which letters behind percent signs stand for what is known. -/
def describedAs (escapes : Bool) (field : Char → Option String) : (fuel : Nat) → List Char → String
  | 0, _ => ""
  | _, [] => ""
  | fuel + 1, '%' :: '%' :: rest => "%" ++ describedAs escapes field fuel rest
  | fuel + 1, '%' :: rest =>
    let flags := rest.takeWhile fun c => "-0 #+".toList.contains c
    let width := (rest.drop flags.length).takeWhile isDigit
    match rest.drop (flags.length + width.length) with
    | c :: behind =>
      let text := (field c).getD "?"
      let fill := String.ofList (List.replicate (decimal width - text.length) ' ')
      (if flags.contains '-' then text ++ fill else fill ++ text) ++
        describedAs escapes field fuel behind
    | [] => "%"
  | fuel + 1, '\\' :: c :: rest =>
    let one (text : String) : String := text ++ describedAs escapes field fuel rest
    if !escapes then "\\" ++ describedAs escapes field fuel (c :: rest)
    else if c = 'n' then one "\n"
    else if c = 't' then one "\t"
    else if c = '\\' then one "\\"
    else one (String.ofList ['\\', c])
  | fuel + 1, c :: rest => String.ofList [c] ++ describedAs escapes field fuel rest

/-- Tells what is known of entries. -/
def stat : Utility := fun task =>
  let rules : OptionRules :=
    { flags := "Lt", takers := "cp"
      names := [("format", 'c'), ("printf", 'p'), ("dereference", 'L'), ("terse", 't')] }
  task.withRules rules fun line =>
    let usual :=
      "  File: %N\n  Size: %-10s\tBlocks: %-10b IO Block: %-6o %F\n" ++
        "Device: 8,1\tInode: %-11i Links: %h\n" ++
        "Access: (%04a/%10A)  Uid: ( %5u/%8U)   Gid: ( %5g/%8G)\n" ++
        "Access: %x\nModify: %y\nChange: %z\n Birth: %w"
    let (format, escapes, ending) :=
      match line.value? 'p', line.value? 'c' with
      | some format, _ => (format, true, "")
      | none, some format => (format, false, "\n")
      | none, none => (usual, false, "\n")
    forEachOperand task line "missing operand" fun report path =>
      let disk := task.disk
      match if line.has 'L' then disk.locate path else disk.locateItself path with
      | .error error =>
        report.complains (task.name ++ ": cannot statx " ++ quotedAlways path ++ ": " ++
          error.reason)
      | .ok place =>
        match disk.entry? place with
        | none =>
          report.complains (task.name ++ ": cannot statx " ++ quotedAlways path ++ ": " ++
            DiskError.notFound.reason)
        | some entry =>
          Report.prints report (describedAs escapes (describedField disk path place entry)
            (format.length + 1) format.toList ++ ending)

/-! ## Room -/

/-- The room that a tree takes, in octets: what its entries hold, or the blocks that they take. -/
def roomOf (disk : Disk) (apparent : Bool) (place : Location) (entry : Entry) : Nat :=
  let one (entry : Entry) : Nat :=
    if apparent then Entry.size entry else Entry.sectors entry * 512
  one entry + sumOf ((disk.below place).map fun (_, entry) => one entry)

/-- The trees whose room is told, innermost first: a path, its depth, the room and whether it is a
directory. -/
def roomRows (disk : Disk) (apparent : Bool) : (fuel depth : Nat) → (path : String) →
    (place : Location) → (entry : Entry) → List (String × Nat × Nat × Bool)
  | 0, _, _, _, _ => []
  | fuel + 1, depth, path, place, entry =>
    let inner := if entry ≠ .directory then [] else
      ((disk.names place).mergeSort fun a b => a ≤ b).flatMap fun name =>
        match disk.entry? (place ++ [name]) with
        | some other =>
          let slash := if path.endsWith "/" then "" else "/"
          roomRows disk apparent fuel (depth + 1) (path ++ slash ++ name) (place ++ [name]) other
        | none => []
    inner ++ [(path, depth, roomOf disk apparent place entry, entry == .directory)]

/-- Tells how much room trees take. -/
def du : Utility := fun task =>
  let rules : OptionRules :=
    { flags := "abchkmsSxLP0", takers := "dBt"
      names := [("all", 'a'), ("bytes", 'b'), ("total", 'c'), ("human-readable", 'h'),
        ("summarize", 's'), ("max-depth", 'd'), ("apparent-size", 'A')] }
  task.withRules rules fun line =>
    let disk := task.disk
    let apparent := line.has 'b'
    let shown (room : Nat) : String :=
      if line.has 'b' then toString room
      else if line.has 'h' then shortSize room
      else if line.has 'm' then toString ((room + 1024 ^ 2 - 1) / 1024 ^ 2)
      else toString ((room + 1023) / 1024)
    let deepest := (line.value? 'd').map fun word => decimal word.toList
    let words := if line.operands.isEmpty then ["."] else line.operands
    let (report, total) := words.foldl
      (fun ((report, total) : Report × Nat) word =>
        match disk.locateItself word with
        | .error error =>
          (report.complains (task.name ++ ": cannot access " ++ quotedAlways word ++ ": " ++
            error.reason), total)
        | .ok place =>
          match disk.entry? place with
          | none =>
            (report.complains (task.name ++ ": cannot access " ++ quotedAlways word ++ ": " ++
              DiskError.notFound.reason), total)
          | some entry =>
            let rows := (roomRows disk apparent (disk.entries.length + 2) 0 word place entry).filter
              fun (_, depth, _, isDirectory) =>
                (depth == 0 || (!line.has 's' && (isDirectory || line.has 'a'))) &&
                  (deepest.map fun most => decide (depth ≤ most)).getD true
            (rows.foldl
              (fun report (path, _, room, _) =>
                Report.prints report (shown room ++ "\t" ++ path ++ "\n"))
              report, total + roomOf disk apparent place entry))
      (task.idle, 0)
    if line.has 'c' then report.prints (shown total ++ "\ttotal\n") else report

end HistoryExpansion.Shell.Utility
