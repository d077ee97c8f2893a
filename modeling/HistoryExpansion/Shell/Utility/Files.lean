import HistoryExpansion.Number
import HistoryExpansion.Shell.Permissions
import HistoryExpansion.Shell.Utility.Basic
import HistoryExpansion.Shell.Utility.Shown

/-!
# Utilities for files

Programs that make, change and remove what is on the disk.
-/

namespace HistoryExpansion.Shell.Utility

/-- The report of a command line that asks for something for each of its words. -/
def forEachOperand (task : Task) (line : CommandLine) (missing : String)
    (body : Report → String → Report) : Report :=
  if line.operands.isEmpty then task.misused missing else line.operands.foldl body task.idle

/-! ## Directories -/

/-- The paths of a directory and of those above it, outermost first. -/
def pathsDownTo (path : String) : List String :=
  let parts := Path.parts path
  (List.range' 1 parts.length).map fun n => Path.ofParts (Path.isAbsolute path) (parts.take n)

/-- Makes one directory, with permissions if they are asked for. -/
def makeOne (task : Task) (line : CommandLine) (mode : Option PermissionChange) (report : Report)
    (path : String) : Report :=
  let existed := report.disk.holds path
  let missing := (pathsDownTo path).filter fun path => !report.disk.holds path
  let change : Disk.Change := fun disk =>
    match (if line.has 'p' then Disk.makeDirectories path else Disk.makeDirectory path) disk with
    | (.ok (), disk) =>
      match mode with
      | some change =>
        if existed then (.ok (), disk)
        else Disk.changeMode path (fun _ _ => change.apply true disk.mask 0o777) disk
      | none => (.ok (), disk)
    | failed => failed
  let after :=
    report.attempts (task.name ++ ": cannot create directory " ++ quotedAlways path) change
  let made := missing.filter after.disk.holds
  if line.has 'v' then
    made.foldl
      (fun report path =>
        Report.prints report (task.name ++ ": created directory " ++ quotedAlways path ++ "\n"))
      after
  else after

/-- Makes directories. -/
def mkdir : Utility := fun task =>
  let rules : OptionRules :=
    { flags := "pvZ", takers := "m", names := [("parents", 'p'), ("verbose", 'v'), ("mode", 'm')] }
  task.withRules rules fun line =>
    match line.value? 'm' with
    | none => forEachOperand task line "missing operand" (makeOne task line none)
    | some word =>
      match PermissionChange.read? word with
      | none => task.fails ("invalid mode " ++ quotedAlways word)
      | some change => forEachOperand task line "missing operand" (makeOne task line (some change))

/-- Removes one empty directory. -/
def removeEmpty (path : String) : Disk.Change := fun disk =>
  match disk.locate path with
  | .error error => (.error error, disk)
  | .ok place =>
    match disk.entry? place with
    | none => (.error .notFound, disk)
    | some .directory =>
      if (disk.names place).isEmpty then Disk.removeTree path disk else (.error .notEmpty, disk)
    | some _ => (.error .notDirectory, disk)

/-- Removes empty directories. -/
def rmdir : Utility := fun task =>
  let rules : OptionRules :=
    { flags := "pvi"
      names := [("parents", 'p'), ("verbose", 'v'), ("ignore-fail-on-non-empty", 'i')] }
  let removeOne (line : CommandLine) (report : Report) (path : String) : Report :=
    let report :=
      if line.has 'v' then
        Report.prints report (task.name ++ ": removing directory, " ++ quotedAlways path ++ "\n")
      else report
    match removeEmpty path report.disk with
    | (.error .notEmpty, _) =>
      if line.has 'i' then report
      else report.complains (task.name ++ ": failed to remove " ++ quotedAlways path ++ ": " ++
        DiskError.notEmpty.reason)
    | _ =>
      report.attempts (task.name ++ ": failed to remove " ++ quotedAlways path) (removeEmpty path)
  task.withRules rules fun line =>
    forEachOperand task line "missing operand" fun report path =>
      let paths := if line.has 'p' then (pathsDownTo path).reverse else [path]
      paths.foldl (fun report path =>
        if report.status = 0 then removeOne line report path else report)
        { report with status := 0 } |> fun found =>
          { found with status := max found.status report.status }

/-! ## Removing -/

/-- The lines that say that a tree was removed, the inner parts first. -/
def removalLines (disk : Disk) : (fuel : Nat) → (path : String) → List String
  | 0, _ => []
  | fuel + 1, path =>
    match disk.locateItself path with
    | .error _ => []
    | .ok place =>
      match disk.entry? place with
      | some .directory =>
        ((disk.names place).flatMap fun name => removalLines disk fuel (path ++ "/" ++ name)) ++
          ["removed directory " ++ quotedAlways path ++ "\n"]
      | some _ => ["removed " ++ quotedAlways path ++ "\n"]
      | none => []

/-- Removes one file or directory. -/
def removeOne (task : Task) (line : CommandLine) (report : Report) (path : String) : Report :=
  let recursive := line.hasAny "rR"
  let name := ((Disk.withoutTrailingSlashes (Path.segments path)).getLast?).getD ""
  let entry := report.disk.findItself path
  let isDirectory := entry.toOption == some .directory
  let cannot := task.name ++ ": cannot remove " ++ quotedAlways path
  if entry.toOption.isNone ∧ line.has 'f' then report
  else if recursive ∧ isDirectory ∧ (name = "." ∨ name = "..") then
    report.complains (task.name ++ ": refusing to remove '.' or '..' directory: skipping " ++
      quotedAlways path)
  else if recursive ∧ isDirectory ∧ (report.disk.locate path).toOption == some [] then
    (report.warns (task.name ++ ": it is dangerous to operate recursively on " ++
      quotedAlways path)).complains
        (task.name ++ ": use --no-preserve-root to override this failsafe")
  else
    let change :=
      if recursive then Disk.removeTree path
      else if line.has 'd' ∧ isDirectory then removeEmpty path
      else Disk.removeFile path
    let (agrees, report) :=
      match entry with
      | .ok entry =>
        if line.has 'i' ∧ (recursive ∨ !isDirectory) then
          report.asks (task.name ++ ": remove " ++ Entry.kindName entry ++ " " ++
            quotedAlways path ++ "? ")
        else (true, report)
      | .error _ => (true, report)
    if !agrees then report else
    let after := report.attempts cannot change
    if line.has 'v' ∧ (after.disk.findItself path).toOption.isNone then
      (removalLines report.disk (report.disk.entries.length + 1) path).foldl Report.prints after
    else after

/-- Removes files, and directories if that is asked for. -/
def rm : Utility := fun task =>
  let rules : OptionRules :=
    { flags := "rRfdivI1"
      names := [("recursive", 'r'), ("force", 'f'), ("dir", 'd'), ("verbose", 'v'),
        ("interactive", 'i'),
        ("one-file-system", '1'), ("preserve-root", '1'), ("no-preserve-root", '1')] }
  task.withRules rules fun line =>
    if line.operands.isEmpty ∧ line.has 'f' then task.idle
    else forEachOperand task line "missing operand" (removeOne task line)

/-- Removes one file. -/
def unlink : Utility := fun task =>
  task.withOptions "" "" fun line =>
    match line.operands with
    | [] => task.misused "missing operand"
    | [path] =>
      task.idle.attempts (task.name ++ ": cannot unlink " ++ quotedAlways path)
        (Disk.removeFile path)
    | _ :: extra :: _ => task.misused ("extra operand " ++ quotedArgument extra)

/-! ## Times and sizes -/

/-- The moment that digits say: month, day, hour and minute, with the year before them if it is
said, and the seconds behind a dot. -/
def stampedMoment? (text : String) : Option Moment :=
  let (digits, seconds) :=
    match Text.splitAtEach '.' text.toList with
    | [digits, seconds] => (digits, seconds)
    | digits :: _ => (digits, ['0'])
    | [] => ([], [])
  let year : Option Int :=
    match digits.length with
    | 8 => some startMoment.year
    | 10 =>
      let year := decimal (digits.take 2)
      some (if year < 69 then 2000 + year else 1900 + year)
    | 12 => some (decimal (digits.take 4))
    | _ => none
  let rest := digits.drop (digits.length - 8)
  let part (i : Nat) : Nat := decimal ((rest.drop (2 * i)).take 2)
  if digits.all isDigit ∧ seconds.all isDigit ∧ 1 ≤ part 0 ∧ part 0 ≤ 12 ∧ 1 ≤ part 1 ∧
      part 1 ≤ 31 ∧ part 2 < 24 ∧ part 3 < 60 then
    year.map fun year =>
      { year := year, month := part 0, day := part 1
        second := part 2 * 3600 + part 3 * 60 + decimal seconds }
  else none

/-- Makes files that are not there, and notes that the others were changed. -/
def touch : Utility := fun task =>
  let rules : OptionRules :=
    { flags := "acfhm", takers := "drt"
      names := [("no-create", 'c'), ("date", 'd'), ("reference", 'r'), ("time", 'x'),
        ("no-dereference", 'h')] }
  task.withRules rules fun line =>
    let disk := task.disk
    let time : Except String Int :=
      match line.value? 'd', line.value? 't', line.value? 'r' with
      | some word, _, _ =>
        match Moment.read? (presentMoment disk) word with
        | some moment => .ok (timeOf moment)
        | none => .error ("invalid date format " ++ quotedArgument word)
      | none, some word, _ =>
        match stampedMoment? word with
        | some moment => .ok (timeOf moment)
        | none => .error ("invalid date format " ++ quotedArgument word)
      | none, none, some path =>
        match disk.locate path with
        | .ok place =>
          if (disk.entry? place).isSome then .ok (disk.time place)
          else .error ("failed to get attributes of " ++ quotedAlways path ++ ": " ++
            DiskError.notFound.reason)
        | .error error =>
          .error ("failed to get attributes of " ++ quotedAlways path ++ ": " ++ error.reason)
      | none, none, none => .ok disk.now
    match time with
    | .error message => task.fails message
    | .ok time =>
      forEachOperand task line "missing file operand" fun report path =>
        if line.has 'c' ∧ !report.disk.holds path then report
        else
          report.attempts (task.name ++ ": cannot touch " ++ quotedAlways path) fun disk =>
            if disk.holds path then Disk.changeTime path time disk
            else
              match Disk.write path [] disk with
              | (.ok (), disk) => Disk.changeTime path time disk
              | failed => failed

/-- The number of octets that a size is, with a letter for its unit. -/
def sizeIn? (text : List Char) : Option Nat :=
  let digits := text.takeWhile isDigit
  let scale : Option Nat :=
    match String.ofList (text.drop digits.length) with
    | "" => some 1
    | "c" => some 1
    | "w" => some 2
    | "b" => some 512
    | "K" => some 1024
    | "k" => some 1024
    | "KiB" => some 1024
    | "kB" => some 1000
    | "KB" => some 1000
    | "M" => some (1024 ^ 2)
    | "MiB" => some (1024 ^ 2)
    | "MB" => some (1000 ^ 2)
    | "G" => some (1024 ^ 3)
    | "GiB" => some (1024 ^ 3)
    | "GB" => some (1000 ^ 3)
    | _ => none
  if digits.isEmpty then none else scale.map (decimal digits * ·)

/-- The size that a file of a size is to have. -/
def newSize? (old : Nat) (word : String) : Option Nat :=
  match word.toList with
  | '+' :: rest => (sizeIn? rest).map (old + ·)
  | '-' :: rest => (sizeIn? rest).map (old - ·)
  | '<' :: rest => (sizeIn? rest).map (min old)
  | '>' :: rest => (sizeIn? rest).map (max old)
  | '/' :: rest => (sizeIn? rest).bind fun n => if n = 0 then none else some (old / n * n)
  | '%' :: rest => (sizeIn? rest).bind fun n =>
      if n = 0 then none else some ((old + n - 1) / n * n)
  | rest => sizeIn? rest

/-- The greatest size that a file is made to have. -/
def greatestSize : Nat := 2 ^ 22

/-- Cuts files to a size or fills them up to it. -/
def truncate : Utility := fun task =>
  let rules : OptionRules :=
    { flags := "co", takers := "sr",
      names := [("size", 's'), ("reference", 'r'), ("no-create", 'c')] }
  task.withRules rules fun line =>
    let reference := (line.value? 'r').map fun path =>
      (((task.disk.read path).toOption).getD []).length
    match line.value? 's', reference with
    | none, none => task.misused "you must specify either '--size' or '--reference'"
    | size, reference =>
      if (size.map fun word => (newSize? 0 word).isNone).getD false then
        task.fails ("Invalid number: " ++ quotedArgument (size.getD ""))
      else
        forEachOperand task line "missing file operand" fun report path =>
          let old := ((report.disk.read path).toOption).getD []
          let wanted :=
            match size with
            | some word => (newSize? old.length word).getD 0
            | none => reference.getD 0
          let wanted := min wanted greatestSize
          if line.has 'c' ∧ !report.disk.holds path then report
          else
            report.attempts
              (task.name ++ ": cannot open " ++ quotedAlways path ++ " for writing")
              (Disk.write path (old.take wanted ++ List.replicate (wanted - old.length) 0))

/-! ## New names -/

/-- The letters of new names. -/
def nameLetters : List Char :=
  "abcdefghijklmnopqrstuvwxyzABCDEFGHIJKLMNOPQRSTUVWXYZ0123456789".toList

/-- The letters that take the place of so many marks in the name of a number. -/
def freshLetters : (count : Nat) → (number : Nat) → List Char
  | 0, _ => []
  | count + 1, number =>
    nameLetters.getD (number % 62) 'a' ::
      freshLetters count (number / 62 + (number % 62) * 7919 + 104729 * (count + 1))

/-- A name with letters in the place of the marks that it ends in, which nothing has so far. -/
def freshPath? (disk : Disk) (template suffix : String) : Option String :=
  let marks := (template.toList.reverse.takeWhile (· = 'X')).length
  if marks < 3 then none
  else
    let start := String.ofList (template.toList.take (template.length - marks))
    let name (n : Nat) : String :=
      start ++ String.ofList (freshLetters marks (n * 982451653 + 48611)) ++ suffix
    ((List.range (disk.entries.length + 1)).map name).find? fun path => !disk.holds path

/-- Makes a file or a directory with a new name, and prints its path. -/
def mktemp : Utility := fun task =>
  let rules : OptionRules :=
    { flags := "dqtu", takers := "ps"
      names := [("directory", 'd'), ("quiet", 'q'), ("tmpdir", 'p'), ("suffix", 's'),
        ("dry-run", 'u')] }
  task.withRules rules fun line =>
    match line.operands.drop 1 with
    | _ :: _ => task.misused "too many templates"
    | [] =>
      let place := ((line.value? 'p').or (task.environment.lookup "TMPDIR")).getD "/tmp"
      let template := line.operands.head?.getD "tmp.XXXXXXXXXX"
      let usesPlace := line.operands.isEmpty || line.has 't' || line.has 'p'
      let path := if usesPlace then place ++ "/" ++ template else template
      match freshPath? task.disk path ((line.value? 's').getD "") with
      | none => task.fails ("too few X's in template " ++ quotedArgument template)
      | some path =>
        if line.has 'u' then task.prints (path ++ "\n")
        else
          let kind := if line.has 'd' then "directory" else "file"
          let change : Disk.Change := fun disk =>
            match (if line.has 'd' then Disk.makeDirectory path else Disk.write path []) disk with
            | (.ok (), disk) =>
              Disk.changeMode path (fun _ _ => if line.has 'd' then 0o700 else 0o600) disk
            | failed => failed
          let after := task.idle.attempts
            (task.name ++ ": failed to create " ++ kind ++ " via template " ++
              quotedArgument path) change
          if after.status = 0 then after.prints (path ++ "\n") else after

end HistoryExpansion.Shell.Utility
