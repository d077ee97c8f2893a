import HistoryExpansion.Number
import HistoryExpansion.Shell.Utility.Grep
import HistoryExpansion.Shell.Utility.Sed.Reader

/-!
# Running scripts of the stream editor

Each line of the input is put into the pattern space, the instructions are run on it, and then it is
printed. Texts that are to stand behind the line wait until then.
-/

namespace HistoryExpansion.Shell.Utility.Sed

/-! ## Machines -/

/-- A line of the input. -/
structure Line where
  /-- Its characters. -/
  text : List Char
  /-- Whether it has a line break. -/
  ended : Bool
  /-- The name of its input. -/
  source : String

/-- How a script is run. -/
structure Settings where
  /-- Whether lines are printed only when that is asked for. -/
  silent : Bool := false
  /-- The character that ends lines. -/
  ending : Char := '\n'
  /-- The width of what is printed so that every character is seen. -/
  width : Nat := 70

/-- The state of a run. -/
structure Machine where
  /-- What was done so far. -/
  report : Report
  /-- The pattern space. -/
  space : List Char := []
  /-- What is kept. -/
  kept : List Char := []
  /-- The number of the line. -/
  number : Nat := 0
  /-- Whether the line has a line break. -/
  ended : Bool := true
  /-- The name of the input. -/
  source : String := "-"
  /-- The lines to come. -/
  pending : List Line := []
  /-- Whether there was a substitution since the line was read. -/
  changed : Bool := false
  /-- The instructions in whose ranges the line is, with the ranges' last lines where known. -/
  ranges : List (Nat × Option Nat) := []
  /-- The last expression that was used. -/
  pattern : Option Pattern := none
  /-- The texts that are to stand behind the line, newest first, with whether they are lines. -/
  queue : List (List Char × Bool) := []
  /-- Whether what was written last lacks a line break. -/
  lacksEnding : Bool := false
  /-- The lines to come of files that are read line by line. -/
  files : List (String × List Octets) := []
  /-- Whether an expression was needed and there was none. -/
  failed : Bool := false

/-- How the instructions for a line came to their end. -/
inductive Ending where
  /-- The line is done, and printed or not. -/
  | done (prints : Bool)
  /-- The instructions are run again on what is left. -/
  | again
  /-- The run ends, and the line is printed or not. -/
  | quit (code : Nat) (prints : Bool)
  /-- The instructions go on without an end. -/
  | endless

/-! ## Output -/

/-- Prints characters behind what lacks a line break. -/
def Machine.emit (settings : Settings) (text : List Char) (ended : Bool) (m : Machine) : Machine :=
  let before := if m.lacksEnding then [settings.ending] else []
  let behind := if ended then [settings.ending] else []
  { m with
    report := m.report.adds (octetsFrom (before ++ text ++ behind)), lacksEnding := !ended }

/-- Prints what is at hand. -/
def Machine.emitSpace (settings : Settings) (m : Machine) : Machine :=
  m.emit settings m.space m.ended

/-- Prints the texts that wait. -/
def Machine.flush (settings : Settings) (m : Machine) : Machine :=
  m.queue.reverse.foldl
    (fun (m : Machine) (text, isLine) =>
      if isLine then m.emit settings text true
      else if text.isEmpty then m
      else
        let before := if m.lacksEnding then [settings.ending] else []
        { m with report := m.report.adds (octetsFrom (before ++ text)), lacksEnding := false })
    { m with queue := [] }

/-- Writes a line to a file. -/
def Machine.writeTo (settings : Settings) (name : String) (text : List Char) (m : Machine) :
    Machine :=
  if name = "/dev/stdout" then m.emit settings text true
  else
    let old := ((m.report.disk.read name).toOption).getD []
    let content := old ++ octetsFrom (text ++ [settings.ending])
    { m with
      report := m.report.attempts ("sed: couldn't open file " ++ name) (Disk.write name content) }

/-- The characters that stand for one that cannot be seen as it is. -/
def visibleChar (c : Char) : List Char :=
  let octal (n : Nat) : List Char :=
    [n / 64, n / 8 % 8, n % 8].map fun digit => Char.ofNat (0x30 + digit)
  if c = '\\' then ['\\', '\\']
  else if c = '\x07' then ['\\', 'a']
  else if c = '\x08' then ['\\', 'b']
  else if c = '\x0c' then ['\\', 'f']
  else if c = '\n' then ['\\', 'n']
  else if c = '\x0d' then ['\\', 'r']
  else if c = '\t' then ['\\', 't']
  else if c = '\x0b' then ['\\', 'v']
  else if ' ' ≤ c ∧ c ≤ '~' then [c]
  else '\\' :: octal c.toNat

/-- A text in which every character is seen, in lines of at most some width. -/
def visibleText (width : Nat) (text : List Char) : List Char :=
  let room := width - 1
  (text.foldl
    (fun (shown, column) c =>
      let seen := visibleChar c
      if room > 0 ∧ column + seen.length > room then
        (shown ++ ['\\', '\n'] ++ seen, seen.length)
      else (shown ++ seen, column + seen.length))
    (([] : List Char), 0)).1 ++ ['$']

/-! ## Lines that are meant -/

/-- The expression of a pattern, or the last one that was used. -/
def Machine.use (pattern : Pattern) (m : Machine) : Option (Regex × Regex.Options) × Machine :=
  match pattern.regex with
  | some regex => (some (regex, pattern.options), { m with pattern := some pattern })
  | none =>
    match m.pattern with
    | some last => (last.regex.map (·, last.options), m)
    | none => (none, { m with failed := true })

/-- Whether the line is one that is named. -/
def Machine.isAt (place : Place) (m : Machine) : Bool × Machine :=
  match place with
  | .line number => (m.number == number, m)
  | .steps first step => (decide (first ≤ m.number) && (m.number - first) % step == 0, m)
  | .last => (m.pending.isEmpty, m)
  | .found pattern =>
    match m.use pattern with
    | (some (regex, options), m) => (regex.isFound options m.space, m)
    | (none, m) => (false, m)

/-- The machine within the range of an instruction, or outside of it. -/
def Machine.setRange (index : Nat) (last : Option (Option Nat)) (m : Machine) : Machine :=
  let others := m.ranges.filter (·.1 ≠ index)
  { m with ranges := (last.map fun last => (index, last)).toList ++ others }

/-- Whether the line is within a range of lines. -/
def Machine.isBetween (index : Nat) (start : Place) (finish : Finish) (m : Machine) :
    Bool × Machine :=
  match m.ranges.lookup index with
  | some (some last) =>
    if m.number < last then (true, m)
    else if m.number = last then (true, m.setRange index none)
    else
      let m := m.setRange index none
      m.isAt start
  | some none =>
    match finish with
    | .at place =>
      let (found, m) := m.isAt place
      (true, if found then m.setRange index none else m)
    | _ => (true, m)
  | none =>
    let (found, m) := m.isAt start
    if !found then (false, m)
    else
      let upTo (last : Nat) : Bool × Machine :=
        (true, if last ≤ m.number then m else m.setRange index (some (some last)))
      match finish with
      | .at (.line number) => upTo number
      | .at _ => (true, m.setRange index (some none))
      | .further count => upTo (m.number + count)
      | .multiple count =>
        upTo (if count = 0 then 0 else (m.number + count - 1) / count * count)

/-- Whether an instruction is for the line. -/
def Machine.selects (index : Nat) (instruction : Instruction) (m : Machine) : Bool × Machine :=
  let (found, m) :=
    match instruction.scope with
    | .all => (true, m)
    | .at place => m.isAt place
    | .between start finish => m.isBetween index start finish
  (found != instruction.negated, m)

/-! ## Substitution -/

/-- How letters are changed on the way. -/
structure CaseMode where
  /-- The change for all characters. -/
  all : Option CaseChange := none
  /-- The change for the next one. -/
  next : Option CaseChange := none

/-- A character with the change of case that is asked for. -/
def CaseMode.apply (mode : CaseMode) (c : Char) : Char :=
  match mode.next.or mode.all with
  | some .upper => c.toUpper
  | some .upperNext => c.toUpper
  | some .lower => c.toLower
  | some .lowerNext => c.toLower
  | _ => c

/-- The text that takes the place of a match. -/
def replacementFor (parts : List Part) (found : Regex.Match) : List Char :=
  let add (state : List Char × CaseMode) (text : List Char) : List Char × CaseMode :=
    match text with
    | [] => state
    | c :: rest =>
      let (shown, mode) := state
      let later := { mode with next := none }
      (shown ++ mode.apply c :: rest.map later.apply, later)
  (parts.foldl
    (fun (state : List Char × CaseMode) part =>
      match part with
      | .char c => add state [c]
      | .group 0 => add state found.text
      | .group number => add state ((found.groups.lookup number).getD [])
      | .case .stop => (state.1, {})
      | .case .upperNext => (state.1, { state.2 with next := some .upperNext })
      | .case .lowerNext => (state.1, { state.2 with next := some .lowerNext })
      | .case change => (state.1, { state.2 with all := some change }))
    ([], {})).1

/-- Replaces matches in a text from a place on. `count` is the number of matches before it, and
`adjacent` tells that one ended right there. Says whether there was anything to replace. -/
def replaceFrom (regex : Regex) (options : Regex.Options) (substitution : Substitution) :
    (fuel : Nat) → (count : Nat) → (before : Option Char) → (adjacent : Bool) → (text : List Char) →
    List Char × Bool
  | 0, _, _, _, text => (text, false)
  | fuel + 1, count, before, adjacent, text =>
    let goOn := replaceFrom regex options substitution fuel
    let past (count : Nat) (text : List Char) : List Char × Bool :=
      match text with
      | [] => ([], false)
      | c :: rest =>
        let (shown, replaced) := goOn count (some c) false rest
        (c :: shown, replaced)
    match regex.find? options before text with
    | none => (text, false)
    | some found =>
      if found.text.isEmpty && found.skipped.isEmpty && adjacent then past count text
      else
        let isMeant := decide (substitution.first ≤ count + 1)
        let shown := if isMeant then replacementFor substitution.parts found else found.text
        let (behind, replaced) :=
          if isMeant && !substitution.further then (found.rest, true)
          else if found.text.isEmpty then past (count + 1) found.rest
          else goOn (count + 1) found.text.getLast? true found.rest
        (found.skipped ++ shown ++ behind, replaced || isMeant)

/-- Does a substitution. -/
def Machine.substitute (settings : Settings) (substitution : Substitution) (m : Machine) :
    Machine :=
  match m.use substitution.pattern with
  | (none, m) => m
  | (some (regex, options), m) =>
    let (text, replaced) :=
      replaceFrom regex options substitution (2 * m.space.length + 2) 0 none false m.space
    if !replaced then m
    else
      let m := { m with space := text, changed := true }
      let m := if substitution.prints then m.emit settings m.space true else m
      match substitution.file with
      | some name => m.writeTo settings name m.space
      | none => m

/-! ## Instructions -/

/-- Reads the next line, if there is one, behind what is at hand or in its place. -/
def Machine.readNext (settings : Settings) (adds : Bool) (m : Machine) : Option Machine :=
  match m.pending with
  | [] => none
  | line :: pending =>
    let m := m.flush settings
    some { m with
      space := if adds then m.space ++ settings.ending :: line.text else line.text
      number := m.number + 1, ended := line.ended, source := line.source, pending := pending }

/-- What is done by an instruction that only changes the machine. -/
def Machine.perform (settings : Settings) (action : Action) (m : Machine) : Machine :=
  let firstLine := m.space.takeWhile (· ≠ settings.ending)
  match action with
  | .number => m.emit settings (toString m.number).toList true
  | .append text => { m with queue := (text, false) :: m.queue }
  | .insert text =>
    { m.emit settings text false with lacksEnding := false }
  | .keep adds =>
    { m with kept := if adds then m.kept ++ settings.ending :: m.space else m.space }
  | .recall adds =>
    { m with space := if adds then m.space ++ settings.ending :: m.kept else m.kept }
  | .exchange => { m with space := m.kept, kept := m.space }
  | .list width => m.emit settings (visibleText (width.getD settings.width) m.space) true
  | .print => m.emit settings m.space true
  | .printFirst => m.emit settings firstLine true
  | .readFile name =>
    let octets :=
      if name = "/dev/stdin" then [] else ((m.report.disk.read name).toOption).getD []
    { m with queue := (charsOf octets, false) :: m.queue }
  | .readLine name =>
    let lines := match m.files.lookup name with
      | some lines => lines
      | none => linesOf (((m.report.disk.read name).toOption).getD [])
    let others := m.files.filter (·.1 ≠ name)
    match lines with
    | [] => { m with files := (name, []) :: others }
    | line :: lines =>
      { m with files := (name, lines) :: others, queue := (charsOf line, true) :: m.queue }
  | .substitute substitution => m.substitute settings substitution
  | .write name firstOnly => m.writeTo settings name (if firstOnly then firstLine else m.space)
  | .exchangeChars pairs =>
    { m with space := m.space.map fun c => (pairs.lookup c).getD c }
  | .inputName => m.emit settings (charsOfText m.source) true
  | .clear => { m with space := [] }
  | _ => m

/-- Runs instructions on the line, from one on. -/
def run (settings : Settings) (script : Array Instruction) : (fuel : Nat) → (index : Nat) →
    Machine → Machine × Ending
  | 0, _, m => (m, .endless)
  | fuel + 1, index, m =>
    match script[index]? with
    | none => (m, .done true)
    | some instruction =>
      let (selected, m) := m.selects index instruction
      if m.failed then (m, .quit 1 false)
      else if !selected then
        match instruction.action with
        | .block behind => run settings script fuel behind m
        | _ => run settings script fuel (index + 1) m
      else
        let jumpTo (target : Option Nat) (m : Machine) : Machine × Ending :=
          match target with
          | some target => run settings script fuel target m
          | none => (m, .done true)
        match instruction.action with
        | .block _ => run settings script fuel (index + 1) m
        | .jump .always target => jumpTo target m
        | .jump .changed target =>
          if m.changed then jumpTo target { m with changed := false }
          else run settings script fuel (index + 1) m
        | .jump .unchanged target =>
          if m.changed then run settings script fuel (index + 1) { m with changed := false }
          else jumpTo target m
        | .change text =>
          let within := (m.ranges.lookup index).isSome && !instruction.negated
          let m := if within then m
            else { m.emit settings text false with lacksEnding := false }
          (m, .done false)
        | .delete => (m, .done false)
        | .deleteFirst =>
          if m.space.contains settings.ending then
            ({ m with space := (m.space.dropWhile (· ≠ settings.ending)).tail }, .again)
          else (m, .done false)
        | .next =>
          if m.pending.isEmpty then (m, .quit 0 true)
          else
            let m := if settings.silent then m else m.emitSpace settings
            match m.readNext settings false with
            | some m => run settings script fuel (index + 1) m
            | none => (m, .quit 0 true)
        | .nextAdded =>
          match m.readNext settings true with
          | some m => run settings script fuel (index + 1) m
          | none => (m, .quit 0 true)
        | .quit code silent => (m, .quit code !silent)
        | action => run settings script fuel (index + 1) (m.perform settings action)

/-! ## Cycles -/

/-- The number of instructions that may be run for one line. -/
def mostInstructions : Nat := 100000

/-- Runs a script on the line at hand and on all lines to come. Gives the status if the script ends
the run. -/
def cycles (settings : Settings) (script : Array Instruction) : (fuel : Nat) → (reads : Bool) →
    Machine → Machine × Option Nat
  | 0, _, m => ({ m with report := { m.report with endless := true } }, none)
  | fuel + 1, reads, m =>
    match if reads then m.readNext settings false else some m with
    | none => (m, none)
    | some m =>
      let finish (prints : Bool) (m : Machine) : Machine :=
        (if prints && !settings.silent then m.emitSpace settings else m).flush settings
      match run settings script mostInstructions 0 { m with changed := false } with
      | (m, .done prints) => cycles settings script fuel true (finish prints m)
      | (m, .again) => cycles settings script fuel false (m.flush settings)
      | (m, .quit code prints) => (finish prints m, some code)
      | (m, .endless) => ({ m with report := { m.report with endless := true } }, none)

/-- The lines of an input. -/
def inputLines (ending : Char) (source : String) (octets : Octets) : List Line :=
  let chars := charsOf octets
  let parts := Text.splitAtEach ending chars
  match parts.reverse with
  | [] => []
  | last :: earlier =>
    let whole := earlier.reverse.map fun text => (⟨text, true, source⟩ : Line)
    if last.isEmpty then whole else whole ++ [⟨last, false, source⟩]

/-- The ranges that are open before the first line. -/
def openRanges (script : Array Instruction) : List (Nat × Option Nat) :=
  script.toList.zipIdx.filterMap fun (instruction, index) =>
    match instruction.scope with
    | .between (.line 0) _ => some (index, none)
    | _ => none

/-- Runs a script on lines, with what was kept. -/
def runOn (settings : Settings) (script : Array Instruction) (kept : List Char) (lines : List Line)
    (report : Report) : Machine × Option Nat :=
  let size := sumOf (lines.map fun line => line.text.length + 2)
  let (m, code) := cycles settings script (2 * size + 2) true
    { report := report, kept := kept, pending := lines, ranges := openRanges script }
  if m.failed then
    let message := "sed: -e expression #1, char 0: no previous regular expression"
    ({ m with report := m.report.complains message }, code)
  else (m, code)

end HistoryExpansion.Shell.Utility.Sed
