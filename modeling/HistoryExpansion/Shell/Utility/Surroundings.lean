import HistoryExpansion.Shell.Utility.Order
import HistoryExpansion.Shell.Utility.Shown
import HistoryExpansion.Shell.Utility.Text

/-!
# What stands around a program

Programs that tell who the user is, what the system is, which time it is, and where programs are
found. There is one user, who may do everything.
-/

namespace HistoryExpansion.Shell.Utility

/-! ## Users -/

/-- The name of the user. -/
def userName : String := "root"

/-- Runs a utility that takes no other words. -/
def withoutOperands (task : Task) (flags : String) (names : List (String × Char))
    (body : CommandLine → Report) : Report :=
  task.withRules { flags := flags, names := names } fun line =>
    match line.operands with
    | extra :: _ => task.misused ("extra operand " ++ quotedArgument extra)
    | [] => body line

/-- Tells the user's name. -/
def whoami : Utility := fun task =>
  withoutOperands task "" [] fun _ => task.prints (userName ++ "\n")

/-- Tells the numbers and names of users. -/
def userNumbers : Utility := fun task =>
  let rules : OptionRules :=
    { flags := "agGnruzZ"
      names := [("group", 'g'), ("groups", 'G'), ("name", 'n'), ("real", 'r'), ("user", 'u'),
        ("zero", 'z')] }
  task.withRules rules fun line =>
    let kinds := ["g", "G", "u"].filter fun word => line.has (word.toList.headD 'u')
    let ending := if line.has 'z' then "\x00" else "\n"
    let users := if line.operands.isEmpty then [userName] else line.operands
    if kinds.length > 1 then
      task.fails "cannot print \"only\" of more than one choice"
    else if kinds.isEmpty ∧ line.hasAny "nr" then
      task.fails "cannot print only names or real IDs in default format"
    else
      users.foldl
        (fun (report : Report) user =>
          if user ≠ userName ∧ user ≠ "0" then
            report.complains (task.name ++ ": " ++ quotedAlways user ++ ": no such user")
          else if kinds.isEmpty then
            Report.prints report ("uid=0(root) gid=0(root) groups=0(root)" ++ ending)
          else Report.prints report ((if line.has 'n' then userName else "0") ++ ending))
        task.idle

/-- Tells the names of the groups of users. -/
def groups : Utility := fun task =>
  task.withOptions "" "" fun line =>
    if line.operands.isEmpty then task.prints (userName ++ "\n")
    else
      line.operands.foldl
        (fun (report : Report) user =>
          if user ≠ userName then
            report.complains (task.name ++ ": " ++ quotedAlways user ++ ": no such user")
          else Report.prints report (user ++ " : " ++ userName ++ "\n"))
        task.idle

/-- Tells that nobody has logged in. -/
def logname : Utility := fun task =>
  withoutOperands task "" [] fun _ => task.fails "no login name"

/-- Tells that the input is no terminal. -/
def tty : Utility := fun task =>
  withoutOperands task "s" [("silent", 's'), ("quiet", 's')] fun line =>
    let report := if line.has 's' then task.idle else task.prints "not a tty\n"
    { report with status := 1 }

/-- Tells of users that have logged in, of whom there is none. -/
def users : Utility := fun task =>
  task.withOptions "" "" fun _ => task.idle

/-! ## The system -/

/-- Tells what the system is. -/
def uname : Utility := fun task =>
  let names : List (String × Char) :=
    [("all", 'a'), ("kernel-name", 's'), ("nodename", 'n'), ("kernel-release", 'r'),
      ("kernel-version", 'v'), ("machine", 'm'), ("processor", 'p'), ("hardware-platform", 'i'),
      ("operating-system", 'o')]
  withoutOperands task "asnrvmpio" names fun line =>
    let parts : List (Char × String) :=
      [('s', "Linux"), ('n', "localhost"), ('r', "6.1.0"), ('v', "#1 SMP"), ('m', "x86_64"),
        ('p', "unknown"), ('i', "unknown"), ('o', "GNU/Linux")]
    let wanted (letter : Char) : Bool :=
      if line.has 'a' then letter ≠ 'p' && letter ≠ 'i'
      else line.has letter || (line.letters.isEmpty && letter = 's')
    task.prints (String.intercalate " "
      ((parts.filter fun (letter, _) => wanted letter).map Prod.snd) ++ "\n")

/-- Tells what the machine is. -/
def arch : Utility := fun task =>
  withoutOperands task "" [] fun _ => task.prints "x86_64\n"

/-- Tells how many processors there are. -/
def nproc : Utility := fun task =>
  withoutOperands task "" [] fun _ => task.prints "4\n"

/-- Does nothing, for all is on the disk already. -/
def sync : Utility := fun task =>
  task.withOptions "df" "" fun line =>
    line.operands.foldl
      (fun (report : Report) path =>
        if task.disk.holds path then report
        else
          report.complains (task.name ++ ": error opening " ++ quotedAlways path ++ ": " ++
            DiskError.notFound.reason))
      task.idle

/-! ## Programs -/

/-- Tells where programs are found. -/
def which : Utility := fun task =>
  let bad := task.arguments.find? fun word =>
    word.startsWith "-" && word ≠ "-a" && word ≠ "-s" && word ≠ "--" && word ≠ "-"
  match bad with
  | some word =>
    let letter := String.ofList ((word.toList.drop 1).take 1)
    { Report.prints (task.idle.warns ("Illegal option -" ++ letter))
        "Usage: /usr/bin/which [-as] args\n" with status := 2 }
  | none =>
    let words := task.arguments.filter fun word => word ≠ "-a" ∧ word ≠ "-s" ∧ word ≠ "--"
    let paths := Text.splitAtEach ':' ((task.environment.lookup "PATH").getD "").toList
    let isProgram (path : String) : Bool :=
      match task.disk.locate path with
      | .error _ => false
      | .ok place =>
        match task.disk.entry? place with
        | some .directory => false
        | some _ => task.disk.mode place &&& 0o111 ≠ 0
        | none => false
    let found (word : String) : List String :=
      if word.toList.contains '/' then (if isProgram word then [word] else [])
      else
        (paths.map fun directory =>
          (if directory.isEmpty then "." else String.ofList directory) ++ "/" ++
            word).filter isProgram
    let report := words.foldl
      (fun (report : Report) word =>
        match found word with
        | [] => { report with status := 1 }
        | first :: others =>
          if task.arguments.contains "-s" then report
          else
            let shown := if task.arguments.contains "-a" then first :: others else [first]
            Report.prints report (String.join (shown.map (· ++ "\n"))))
      task.idle
    if words.isEmpty then { report with status := 1 } else report

/-! ## Time -/

/-- The formats of dates with a time whose precision is named. -/
def standardFormat? (separator : String) (precision : String) : Option String :=
  let names := ["date", "hours", "minutes", "seconds", "ns"]
  match (names.find? fun name => precision ≠ "" && name.startsWith precision).getD "" with
  | "date" => some "%Y-%m-%d"
  | "hours" => some ("%Y-%m-%d" ++ separator ++ "%H%:z")
  | "minutes" => some ("%Y-%m-%d" ++ separator ++ "%H:%M%:z")
  | "seconds" => some ("%Y-%m-%d" ++ separator ++ "%H:%M:%S%:z")
  | "ns" => some ("%Y-%m-%d" ++ separator ++ "%H:%M:%S,%N%:z")
  | _ => none

/-- Tells a date and a time. -/
def date : Utility := fun task =>
  let rules : OptionRules :=
    { flags := "uR", takers := "drfs", optional := "I", namedTakers := "3"
      names := [("date", 'd'), ("reference", 'r'), ("file", 'f'), ("set", 's'), ("utc", 'u'),
        ("universal", 'u'), ("iso-8601", 'I'), ("rfc-email", 'R'), ("rfc-3339", '3')] }
  task.withRules rules fun line =>
    let now := presentMoment task.disk
    let moment : Except String Moment :=
      match line.value? 'd', line.value? 'r' with
      | some word, _ =>
        match Moment.read? now word with
        | some moment => .ok moment
        | none => .error ("invalid date " ++ quotedArgument word)
      | none, some path =>
        match task.disk.locate path with
        | .error error => .error (quoted path ++ ": " ++ error.reason)
        | .ok place =>
          if (task.disk.entry? place).isSome then .ok (momentOf (task.disk.time place))
          else .error (quoted path ++ ": " ++ DiskError.notFound.reason)
      | none, none => .ok now
    let standard : Option String :=
      if line.has 'R' then some "%a, %d %b %Y %H:%M:%S %z"
      else if line.has '3' then standardFormat? " " ((line.value? '3').getD "")
      else if line.has 'I' then standardFormat? "T" ((line.value? 'I').getD "date")
      else none
    match line.operands with
    | _ :: extra :: _ => task.misused ("extra operand " ++ quotedArgument extra)
    | operands =>
      let format :=
        match operands.head?.map String.toList with
        | some ('+' :: format) => some (String.ofList format)
        | _ => none
      match operands, format, moment with
      | word :: _, none, _ => task.fails ("invalid date " ++ quotedArgument word)
      | _, _, .error message => task.fails message
      | _, format, .ok moment =>
        let format := (format.or standard).getD "%a %b %e %H:%M:%S %Z %Y"
        task.prints (moment.formatted format ++ "\n")

end HistoryExpansion.Shell.Utility
