import HistoryExpansion.Shell.Utility.Sed.Run

/-!
# The stream editor

Runs a script on the lines of its inputs, all of them one after the other, or each by itself and in
its own place.
-/

namespace HistoryExpansion.Shell.Utility

namespace Sed

/-- The options of the program. -/
def rules : OptionRules where
  flags := "nErsuz"
  takers := "efl"
  optional := "i"
  names :=
    [("quiet", 'n'), ("silent", 'n'), ("expression", 'e'), ("file", 'f'), ("in-place", 'i'),
      ("line-length", 'l'), ("regexp-extended", 'E'), ("separate", 's'), ("unbuffered", 'u'),
      ("null-data", 'z'), ("zero-terminated", 'z'), ("posix", 'u'), ("debug", 'u'),
      ("sandbox", 'u'), ("follow-symlinks", 'u')]

/-- Where a page about the program is found. -/
def page (path : String) : String :=
  "<https:/" ++ "/www.gnu.org/" ++ path ++ ">"

/-- How the program is called. -/
def usage : String :=
  "Usage: sed [OPTION]... \x7bscript-only-if-no-other-script\x7d [input-file]...

  -n, --quiet, --silent
                 suppress automatic printing of pattern space
      --debug
                 annotate program execution
  -e script, --expression=script
                 add the script to the commands to be executed
  -f script-file, --file=script-file
                 add the contents of script-file to the commands to be executed
  --follow-symlinks
                 follow symlinks when processing in place
  -i[SUFFIX], --in-place[=SUFFIX]
                 edit files in place (makes backup if SUFFIX supplied)
  -l N, --line-length=N
                 specify the desired line-wrap length for the \x60l' command
  --posix
                 disable all GNU extensions.
  -E, -r, --regexp-extended
                 use extended regular expressions in the script
                 (for portability use POSIX -E).
  -s, --separate
                 consider files as separate rather than as a single,
                 continuous long stream.
      --sandbox
                 operate in sandbox mode (disable e/r/w commands).
  -u, --unbuffered
                 load minimal amounts of data from the input files and flush
                 the output buffers more often
  -z, --null-data
                 separate lines by NUL characters
      --help     display this help and exit
      --version  output version information and exit

If no -e, --expression, -f, or --file option is given, then the first
non-option argument is taken as the sed script to interpret.  All
remaining arguments are names of input files; if no input files are
specified, then the standard input is read.

GNU sed home page: " ++ page "software/sed/" ++ ".
General help using GNU software: " ++ page "gethelp/" ++ "."

/-- A part of a script, as it was given. -/
structure Chunk where
  /-- The file that it was read from, if it was one. -/
  file : Option String
  /-- Its characters. -/
  text : List Char

/-- The parts of a script that options give, in order. -/
def chunksOf (task : Task) (line : CommandLine) : Except String (List Chunk) :=
  (line.values.reverse.filter fun (letter, _) => letter == 'e' || letter == 'f').mapM
    fun (letter, value) =>
      if letter = 'e' then .ok ⟨none, charsOfText value⟩
      else
        match task.octetsOf value with
        | .error error => .error ("couldn't open file " ++ value ++ ": " ++ error.reason)
        | .ok octets =>
          let text := charsOf octets
          .ok ⟨some value, if text.getLast? = some '\n' then text.dropLast else text⟩

/-- The text of a script: its parts on lines of their own. -/
def textOfChunks (chunks : List Chunk) : List Char :=
  ((chunks.map Chunk.text).intersperse ['\n']).flatten

/-- Where a script goes wrong, when so many characters have been read. -/
def spotIn : (expression : Nat) → (taken : Nat) → List Chunk → String
  | expression, taken, [] =>
    "-e expression #" ++ toString expression ++ ", char " ++ toString taken ++ ": "
  | expression, taken, chunk :: chunks =>
    if taken ≤ chunk.text.length ∨ chunks.isEmpty then
      match chunk.file with
      | none => "-e expression #" ++ toString expression ++ ", char " ++ toString taken ++ ": "
      | some name =>
        "file " ++ name ++ " line " ++ toString (1 + (chunk.text.take taken).count '\n') ++ ": "
    else
      let next := if chunk.file.isNone then expression + 1 else expression
      spotIn next (taken - (chunk.text.length + 1)) chunks

/-- The wording of what is wrong with a script. -/
def Misreading.message (chunks : List Chunk) (misreading : Misreading) : String :=
  let spot :=
    match misreading.spot with
    | .before rest => spotIn 1 ((textOfChunks chunks).length - rest.length) chunks
    | .somewhere => "-e expression #1, char 0: "
    | .overall => ""
  spot ++ misreading.reason

/-- The files that a script writes. -/
def writtenFiles (script : Array Instruction) : List String :=
  (script.toList.filterMap fun instruction =>
    match instruction.action with
    | .write name _ => some name
    | .substitute substitution => substitution.file
    | _ => none).eraseDups.filter (· ≠ "/dev/stdout")

/-- The name that a file is kept under before it is changed. -/
def backupName (suffix name : String) : String :=
  if suffix.toList.contains '*' then
    let base := (Path.fileName? name).getD name
    let directory := (name.take (name.length - base.length)).toString
    let kept := String.join (suffix.toList.map fun c => if c = '*' then base else c.toString)
    if kept.toList.contains '/' then kept else directory ++ kept
  else name ++ suffix

/-- The status of a run whose script ended it or not, and that lacked an input or not. -/
def statusOf (report : Report) (code : Option Nat) : Nat :=
  match code with
  | some 0 => report.status
  | some code => code
  | none => report.status

/-- Runs a script on each file by itself, with the result in its place. -/
def editFiles (task : Task) (settings : Settings) (script : Array Instruction) (suffix : String) :
    (kept : List Char) → List String → Report → Report
  | _, [], report => report
  | kept, name :: names, report =>
    match report.disk.find name, report.disk.read name with
    | .ok .directory, _ =>
      editFiles task settings script suffix kept names
        (report.complains ("sed: couldn't edit " ++ name ++ ": not a regular file") 4)
    | _, .error error =>
      editFiles task settings script suffix kept names
        (report.complains ("sed: can't read " ++ name ++ ": " ++ error.reason) 2)
    | _, .ok octets =>
      let fresh : Report := { disk := report.disk }
      let lines := inputLines settings.ending name octets
      let (m, code) := runOn settings script kept lines fresh
      let report :=
        { report with
          disk := m.report.disk
          writes := m.report.writes.filter (fun (written : Nat × Octets) => written.1 ≠ 1) ++
            report.writes
          status := if m.failed then 1 else report.status
          endless := m.report.endless }
      let report :=
        if suffix = "" then report
        else report.attempts "sed" (Disk.write (backupName suffix name) octets)
      let report := report.attempts "sed" (Disk.write name m.report.output)
      match code with
      | some code => { report with status := statusOf report (some code) }
      | none => editFiles task settings script suffix m.kept names report

/-- Runs a script on inputs one after the other. -/
def editAll (task : Task) (settings : Settings) (script : Array Instruction) (separate : Bool)
    (words : List String) (report : Report) : Report :=
  let words := if words.isEmpty then ["-"] else words
  let (lines, report, _) := words.foldl
    (fun ((lines, report, broken) : List (List Line) × Report × Bool) word =>
      if broken then (lines, report, broken)
      else
        match task.octetsOf word with
        | .ok octets =>
          let report := if isInputName word then { report with unread := [] } else report
          (lines ++ [inputLines settings.ending word octets], report, false)
        | .error .isDirectory =>
          (lines, report.complains ("sed: read error on " ++ word ++ ": Is a directory") 4, true)
        | .error error =>
          (lines, report.complains ("sed: can't read " ++ word ++ ": " ++ error.reason) 2, false))
    ([], report, false)
  let parts := if separate then lines else [lines.flatten]
  let (report, _, _) := parts.foldl
    (fun ((report, kept, stopped) : Report × List Char × Bool) lines =>
      if stopped then (report, kept, stopped)
      else
        let (m, code) := runOn settings script kept lines report
        let status := if m.failed then 1 else statusOf m.report code
        let rest := (m.pending.filter fun line => isInputName line.source).flatMap fun line =>
          octetsFrom (if line.ended then line.text ++ [settings.ending] else line.text)
        let unread :=
          if code.isSome ∧ !rest.isEmpty then task.leftOver rest 4096 else m.report.unread
        ({ m.report with status := status, unread := unread }, m.kept, code.isSome))
    (report, [], false)
  report

end Sed

/-- Edits lines as a script says. -/
def sed : Utility := fun task =>
  match task.options Sed.rules with
  | .error fault => (task.fails fault.message).warns Sed.usage
  | .ok line =>
    match Sed.chunksOf task line with
    | .error reason => task.fails reason
    | .ok given =>
      let (chunks, words) : List Sed.Chunk × List String :=
        match given, line.operands with
        | [], script :: words => ([⟨none, charsOfText script⟩], words)
        | given, words => (given, words)
      if chunks.isEmpty then { task.idle.warns Sed.usage with status := 1 }
      else
        let text := Sed.textOfChunks chunks
        match Sed.instructionsOf (line.hasAny "Er") text with
        | .error misreading => task.fails (misreading.message chunks)
        | .ok script =>
          let script := script.toArray
          let isQuiet := text.take 2 == ['#', 'n'] && (text.drop 2).head?.all (· == '\n')
          let settings : Sed.Settings :=
            { silent := line.has 'n' || isQuiet
              ending := if line.has 'z' then '\x00' else '\n'
              width := ((line.value? 'l').map fun (word : String) => decimal word.toList).getD 70 }
          let report := (Sed.writtenFiles script).foldl
            (fun (report : Report) name =>
              report.attempts ("sed: couldn't open file " ++ name) (Disk.write name []))
            task.idle
          if line.has 'i' then
            Sed.editFiles task settings script ((line.value? 'i').getD "") [] words report
          else Sed.editAll task settings script (line.has 's') words report

end HistoryExpansion.Shell.Utility
