import HistoryExpansion.Shell.Utility.Files

/-!
# Copying, moving and linking

Programs that put what is on the disk somewhere else, or make it known by another name.
-/

namespace HistoryExpansion.Shell.Utility

/-- What is put where. -/
structure Transfer where
  /-- The paths that are put. -/
  sources : List String
  /-- Where they are put. -/
  target : String
  /-- Whether they are put into the target, as a directory. -/
  into : Bool

/-- The path below a directory under which something is put there. -/
def pathInto (target source : String) : String :=
  let slash := if Path.endsInSlash target then "" else "/"
  target ++ slash ++ ((Disk.withoutTrailingSlashes (Path.segments source)).getLast?).getD ""

/-- What the words of a command line put where. -/
def transferOf (task : Task) (line : CommandLine) : Except Report Transfer :=
  let fails (what target : String) : Except Report Transfer :=
    let error := match task.disk.find target with
      | .ok _ => DiskError.notDirectory
      | .error error => error
    .error (task.fails (what ++ quotedAlways target ++ ": " ++ error.reason))
  match line.value? 't', line.operands with
  | _, [] => .error (task.misused "missing file operand")
  | some target, sources =>
    if task.disk.holdsDirectory target then .ok ⟨sources, target, true⟩
    else fails "target directory " target
  | none, [word] =>
    .error (task.misused ("missing destination file operand after " ++ quotedAlways word))
  | none, words =>
    let target := words.getLast?.getD ""
    let sources := words.dropLast
    if line.has 'T' then
      match sources with
      | _ :: extra :: _ => .error (task.misused ("extra operand " ++ quotedAlways extra))
      | _ => .ok ⟨sources, target, false⟩
    else if task.disk.holdsDirectory target then .ok ⟨sources, target, true⟩
    else if sources.length > 1 then fails "target " target
    else .ok ⟨sources, target, false⟩

/-- Goes through what is put somewhere, source by source. -/
def transferring (task : Task) (line : CommandLine)
    (body : Report → (source target : String) → Report) : Report :=
  match transferOf task line with
  | .error report => report
  | .ok transfer =>
    transfer.sources.foldl
      (fun report source =>
        body report source
          (if transfer.into then pathInto transfer.target source else transfer.target))
      task.idle

/-- A line that tells of something done to a path and another, if that is asked for. -/
def telling (line : CommandLine) (text : String) (report : Report) : Report :=
  if line.has 'v' then Report.prints report (text ++ "\n") else report

/-! ## Copying -/

/-- Copies one file or directory, with all that is below it. -/
def copyOne (task : Task) (line : CommandLine) : (fuel : Nat) → (top : Bool) → Report →
    (source target : String) → Report
  | 0, _, report, _, _ => report
  | fuel + 1, top, report, source, target =>
    let disk := report.disk
    let recursive := line.hasAny "rRa"
    let follows := !(line.hasAny "dP" || recursive) || line.has 'L' || (top && line.has 'H')
    let fails (message : String) : Report := report.complains (task.name ++ ": " ++ message)
    let both := quotedAlways source ++ " -> " ++ quotedAlways target
    match if follows then disk.locate source else disk.locateItself source with
    | .error error => fails ("cannot stat " ++ quotedAlways source ++ ": " ++ error.reason)
    | .ok place =>
      let old := (disk.find target).toOption
      let isSame := (disk.locate target).toOption == some place && old.isSome
      match disk.entry? place with
      | none => fails ("cannot stat " ++ quotedAlways source ++ ": " ++ DiskError.notFound.reason)
      | some .directory =>
        let isWithin : Bool :=
          match disk.locate target with
          | .ok other => place.isPrefixOf other
          | .error _ => false
        if !recursive then
          fails ("-r not specified; omitting directory " ++ quotedAlways source)
        else if old.isSome ∧ old ≠ some .directory then
          fails ("cannot overwrite non-directory " ++ quotedAlways target ++ " with directory " ++
            quotedAlways source)
        else if isWithin ∧ top then
          fails ("cannot copy a directory, " ++ quotedAlways source ++ ", into itself, " ++
            quotedAlways target)
        else
          let made := if old.isSome then report else
            telling line both (report.attempts
              (task.name ++ ": cannot create directory " ++ quotedAlways target) fun disk =>
                match Disk.makeDirectory target disk with
                | (.ok (), disk) =>
                  let wanted := masked (disk.mode place) disk.mask
                  if wanted = masked 0o777 disk.mask then (.ok (), disk)
                  else Disk.changeMode target (fun _ _ => wanted) disk
                | failed => failed)
          if !made.disk.holdsDirectory target then made
          else
            let names := (disk.names place).mergeSort fun a b => a ≤ b
            names.foldl
              (fun report name =>
                copyOne task line fuel false report (pathInto source name) (pathInto target name))
              made
      | some (.link path) =>
        let cleared := if old.isSome ∨ (disk.findItself target).toOption.isSome then
            (Disk.removeFile target disk).2 else disk
        telling line both ({ report with disk := cleared }.attempts
          (task.name ++ ": cannot create symbolic link " ++ quotedAlways target)
          (Disk.makeLink path target))
      | some entry =>
        let (agrees, asked) :=
          if old.isSome ∧ line.has 'i' ∧ !line.has 'n' ∧ old ≠ some .directory ∧ !isSame then
            report.asks (task.name ++ ": overwrite " ++ quotedAlways target ++ "? ")
          else (true, report)
        let refuses := !agrees
        if old = some .directory then
          fails ("cannot overwrite directory " ++ quotedAlways target ++ " with non-directory " ++
            quotedAlways source)
        else if isSame then
          fails (quotedAlways source ++ " and " ++ quotedAlways target ++ " are the same file")
        else if old.isSome ∧ line.has 'n' then report
        else if old.isSome ∧ line.has 'u' ∧ !isNewerPlace disk place target then report
        else if refuses then { asked with status := 1 }
        else if line.has 's' then
          telling line both (report.attempts
            (task.name ++ ": cannot create symbolic link " ++ quotedAlways target)
            (Disk.makeLink source target))
        else
          let disk := if line.has 'b' ∧ old.isSome then
              (Disk.rename target (target ++ "~") disk).2 else disk
          let after := { asked with disk := disk }.attempts
            (task.name ++ ": cannot create regular file " ++ quotedAlways target) fun disk =>
              match Disk.copyFile entry (disk.mode place) target disk with
              | (.ok (), disk) =>
                if line.hasAny "pa" then
                  match Disk.changeTime target (disk.time place) disk with
                  | (_, disk) => Disk.changeMode target (fun _ _ => disk.mode place) disk
                else (.ok (), disk)
              | failed => failed
          if after.status = report.status ∨ after.disk.holds target then telling line both after
          else after
where
  /-- Whether what stands at a place was changed after what a path leads to. -/
  isNewerPlace (disk : Disk) (place : Location) (path : String) : Bool :=
    match disk.locate path with
    | .ok other => disk.time other < disk.time place
    | .error _ => true

/-- The options of a program that copies. -/
def copyRules : OptionRules where
  flags := "abdfHilLnPprRsuvTx"
  takers := "tS"
  names := [("archive", 'a'), ("force", 'f'), ("interactive", 'i'), ("no-clobber", 'n'),
    ("recursive", 'r'), ("update", 'u'), ("verbose", 'v'), ("target-directory", 't'),
    ("no-target-directory", 'T'), ("preserve", 'p'), ("dereference", 'L'), ("symbolic-link", 's'),
    ("link", 'l')]

/-- Copies files. -/
def cp : Utility := fun task =>
  task.withRules copyRules fun line =>
    transferring task line (copyOne task line (task.disk.entries.length + 2) true)

/-! ## Moving -/

/-- Moves one file or directory. -/
def moveOne (task : Task) (line : CommandLine) (report : Report) (source target : String) :
    Report :=
  let disk := report.disk
  let fails (message : String) : Report := report.complains (task.name ++ ": " ++ message)
  let old := (disk.findItself target).toOption
  match disk.findItself source with
  | .error error => fails ("cannot stat " ++ quotedAlways source ++ ": " ++ error.reason)
  | .ok entry =>
    let isSame := old.isSome && (disk.locateItself target).toOption ==
      (disk.locateItself source).toOption
    let (agrees, asked) :=
      if old.isSome ∧ line.has 'i' ∧ !line.has 'n' ∧ !isSame then
        report.asks (task.name ++ ": overwrite " ++ quotedAlways target ++ "? ")
      else (true, report)
    let refuses := !agrees
    if isSame then
      fails (quotedAlways source ++ " and " ++ quotedAlways target ++ " are the same file")
    else if old.isSome ∧ line.has 'n' then report
    else if entry = .directory ∧ old.isSome ∧ old ≠ some .directory then
      fails ("cannot overwrite non-directory " ++ quotedAlways target ++ " with directory " ++
        quotedAlways source)
    else if entry ≠ .directory ∧ old = some .directory then
      fails ("cannot overwrite directory " ++ quotedAlways target ++ " with non-directory")
    else if refuses then asked
    else
      let report := asked
      let disk := if line.has 'b' ∧ old.isSome then
          (Disk.rename target (target ++ "~") disk).2 else disk
      match Disk.rename source target disk with
      | (.ok (), disk) =>
        telling line ("renamed " ++ quotedAlways source ++ " -> " ++ quotedAlways target)
          { report with disk := disk }
      | (.error .invalid, _) =>
        fails ("cannot move " ++ quotedAlways source ++ " to a subdirectory of itself, " ++
          quotedAlways target)
      | (.error error, _) =>
        fails ("cannot move " ++ quotedAlways source ++ " to " ++ quotedAlways target ++ ": " ++
          error.reason)

/-- Moves files and directories. -/
def mv : Utility := fun task =>
  let rules : OptionRules :=
    { flags := "bfinuvT", takers := "tS"
      names := [("force", 'f'), ("interactive", 'i'), ("no-clobber", 'n'), ("update", 'u'),
        ("verbose", 'v'), ("target-directory", 't'), ("no-target-directory", 'T')] }
  task.withRules rules fun line => transferring task line (moveOne task line)

/-! ## Linking -/

/-- The path from one place to another. -/
def relativePath (start goal : Location) : String :=
  let shared := ((start.zip goal).takeWhile fun (a, b) => a == b).length
  let parts := (start.drop shared).map (fun _ => "..") ++ goal.drop shared
  if parts.isEmpty then "." else String.intercalate "/" parts

/-- Makes a link at a path. -/
def linkOne (task : Task) (line : CommandLine) (report : Report) (source target : String) :
    Report :=
  let disk := report.disk
  let symbolic := line.has 's'
  let fails (message : String) : Report := report.complains (task.name ++ ": " ++ message)
  let old := (disk.findItself target).toOption
  let cleared := if line.has 'f' ∧ old.isSome ∧ old ≠ some .directory then
      (Disk.removeFile target disk).2 else disk
  if symbolic then
    let path :=
      if !line.has 'r' then source
      else
        match disk.locate source, disk.locateNew target with
        | .ok goal, .ok place => relativePath place.dropLast goal
        | _, _ => source
    match Disk.makeLink path target cleared with
    | (.ok (), disk) =>
      telling line (quotedAlways target ++ " -> " ++ quotedAlways path) { report with disk := disk }
    | (.error error, _) =>
      fails ("failed to create symbolic link " ++ quotedAlways target ++ ": " ++ error.reason)
  else
    match disk.find source with
    | .error error => fails ("failed to access " ++ quotedAlways source ++ ": " ++ error.reason)
    | .ok .directory => fails (source ++ ": hard link not allowed for directory")
    | .ok entry =>
      let mode := ((disk.locate source).toOption.map disk.mode).getD 0o644
      if (cleared.findItself target).toOption.isSome then
        fails ("failed to create hard link " ++ quotedAlways target ++ ": " ++
          DiskError.alreadyExists.reason)
      else
        match Disk.copyFile entry mode target cleared with
        | (.ok (), disk) =>
          telling line (quotedAlways target ++ " => " ++ quotedAlways source)
            { report with disk := disk }
        | (.error error, _) =>
          fails ("failed to create hard link " ++ quotedAlways target ++ " => " ++
            quotedAlways source ++ ": " ++ error.reason)

/-- Makes links. -/
def ln : Utility := fun task =>
  let rules : OptionRules :=
    { flags := "bdfFiLnPrsTv", takers := "tS"
      names := [("symbolic", 's'), ("force", 'f'), ("no-dereference", 'n'), ("verbose", 'v'),
        ("relative", 'r'), ("target-directory", 't'), ("no-target-directory", 'T')] }
  task.withRules rules fun line =>
    let isKept :=
      match line.operands.getLast? with
      | some target => line.has 'n' && isLinkAt task.disk target
      | none => false
    match line.operands, line.has 't' with
    | [source], false => linkOne task line task.idle source (pathInto "." source |> withoutDot)
    | [source, target], false =>
      if isKept then linkOne task line task.idle source target
      else transferring task line (linkOne task line)
    | _, _ => transferring task line (linkOne task line)
where
  /-- Whether a path names a link. -/
  isLinkAt (disk : Disk) (path : String) : Bool :=
    match disk.findItself path with
    | .ok (.link _) => true
    | _ => false
  /-- A path below the directory itself, by its name. -/
  withoutDot (path : String) : String :=
    String.ofList (path.toList.drop 2)

/-- Makes one further name for a file. -/
def link : Utility := fun task =>
  task.withOptions "" "" fun line =>
    match line.operands with
    | [source, target] =>
      match task.disk.find source with
      | .error error =>
        task.fails ("cannot create link " ++ quotedAlways target ++ " to " ++ quotedAlways source ++
          ": " ++ error.reason)
      | .ok _ => linkOne task line task.idle source target
    | [] => task.misused "missing operand"
    | [word] => task.misused ("missing operand after " ++ quotedArgument word)
    | _ :: _ :: extra :: _ => task.misused ("extra operand " ++ quotedArgument extra)

end HistoryExpansion.Shell.Utility
