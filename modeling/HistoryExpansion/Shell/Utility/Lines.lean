import HistoryExpansion.Shell.Escape
import HistoryExpansion.Shell.Utility.Files
import HistoryExpansion.Shell.Utility.Order
import HistoryExpansion.Shell.Utility.Text

/-!
# Lines in other orders and shapes

Programs that turn their input round, number its lines, set lines side by side, break long ones, and
cut a file into several.
-/

namespace HistoryExpansion.Shell.Utility

/-! ## Turning round -/

/-- Octets cut behind each place at which a separator stands, or before it. -/
def cutAtSeparators (separator : Octets) (before : Bool) : (fuel : Nat) → (current : Octets) →
    Octets → List Octets
  | 0, current, rest => [current.reverse ++ rest]
  | _, current, [] => if current.isEmpty then [] else [current.reverse]
  | fuel + 1, current, octet :: rest =>
    if !separator.isEmpty && separator.isPrefixOf (octet :: rest) then
      let behind := (octet :: rest).drop separator.length
      if before then
        (if current.isEmpty then [] else [current.reverse]) ++
          cutAtSeparators separator before fuel separator.reverse behind
      else (current.reverse ++ separator) :: cutAtSeparators separator before fuel [] behind
    else cutAtSeparators separator before fuel (octet :: current) rest

/-- Passes the lines of each input on, the last one first. -/
def tac : Utility := fun task =>
  let rules : OptionRules :=
    { flags := "br", takers := "s"
      names := [("before", 'b'), ("regex", 'r'), ("separator", 's')] }
  task.withRules rules fun line =>
    let separator := ((line.value? 's').map Utf8.ofString).getD [0x0A]
    let separator := if separator.isEmpty then [0] else separator
    let wording : Wording := fun word error =>
      if error = .isDirectory then quoted word ++ ": read error: " ++ DiskError.invalid.reason
      else "failed to open " ++ quotedAlways word ++ " for reading: " ++ error.reason
    let part (_ : String) (octets : Octets) (report : Report) : Report :=
      report.adds
        (cutAtSeparators separator (line.has 'b') (octets.length + 1) [] octets).reverse.flatten
    task.overInputs line.operands part wording

/-- Passes the lines of its inputs on, each with its last character first. -/
def rev : Utility := fun task =>
  task.withOptions "0" "" fun line =>
    let ending : UInt8 := if line.has '0' then 0 else 0x0A
    let turned (octets : Octets) : Octets :=
      if octets.getLast? = some ending then octets.dropLast.reverse ++ [ending]
      else octets.reverse
    let wording : Wording := fun word error => "cannot open " ++ word ++ ": " ++ error.reason
    let words := line.operands.filter fun word => !task.disk.holdsDirectory word
    if words.isEmpty ∧ !line.operands.isEmpty then task.idle
    else
      task.overInputs words
        (fun _ octets report =>
          report.adds ((recordsOf ending octets).zipIdx.flatMap fun (text, i) =>
            let isLast := i + 1 = (recordsOf ending octets).length
            turned (if isLast ∧ octets.getLast? ≠ some ending then text else text ++ [ending])))
        wording

/-- The numbers of a range. -/
def rangeOf? (word : String) : Option (Nat × Nat) :=
  match Text.splitAtEach '-' word.toList with
  | [low, high] =>
    if [low, high].all (fun digits => !digits.isEmpty && digits.all isDigit) ∧
        decimal low ≤ decimal high + 1 then
      some (decimal low, decimal high)
    else none
  | _ => none

/-- Passes lines on in some order. -/
def shuf : Utility := fun task =>
  let rules : OptionRules :=
    { flags := "erz", takers := "ion"
      names := [("echo", 'e'), ("input-range", 'i'), ("head-count", 'n'), ("output", 'o'),
        ("repeat", 'r'), ("zero-terminated", 'z')] }
  task.withRules rules fun line =>
    let ending : UInt8 := if line.has 'z' then 0 else 0x0A
    let count : Except String (Option Nat) :=
      match line.value? 'n' with
      | none => .ok none
      | some word =>
        if !word.isEmpty ∧ word.toList.all isDigit then .ok (some (decimal word.toList))
        else .error ("invalid line count: " ++ quotedArgument word)
    let finish (lines : List Octets) (count : Option Nat) (report : Report) : Report :=
      let output := (lines.take (count.getD lines.length)).flatMap (· ++ [ending])
      match line.value? 'o' with
      | none => report.adds output
      | some path => report.attempts (task.name ++ ": " ++ quoted path) (Disk.write path output)
    match count, line.value? 'i', line.operands with
    | .error message, _, _ => task.fails message
    | .ok count, some word, operands =>
      match rangeOf? word, operands with
      | none, _ => task.fails ("invalid input range: " ++ quotedArgument word)
      | some _, extra :: _ => task.misused ("extra operand " ++ quotedArgument extra)
      | some (low, high), [] =>
        finish ((List.range' low (high + 1 - low)).map fun n => Utf8.ofString (toString n)) count
          task.idle
    | .ok count, none, operands =>
      if line.has 'e' then finish (operands.map Utf8.ofString) count task.idle
      else
        match operands with
        | _ :: extra :: _ => task.misused ("extra operand " ++ quotedArgument extra)
        | _ =>
          let word := operands.headD "-"
          match task.octetsOf word with
          | .error .isDirectory => task.fails ("read error: " ++ DiskError.isDirectory.reason)
          | .error error => task.fails (plainWording word error)
          | .ok octets =>
            let idle := if isInputName word then { task.idle with unread := [] } else task.idle
            finish (recordsOf ending octets) count idle

/-- Writes a line again and again. -/
def yes : Utility := fun task =>
  match task.arguments.find? fun word => word.startsWith "-" && word ≠ "-" && word ≠ "--" with
  | some word =>
    if word.startsWith "--" then task.misused (OptionFault.unknownName word).message
    else
      task.misused (OptionFault.unknown ((word.toList.drop 1).headD '-')).message
  | none =>
    let words := match task.arguments with
      | "--" :: rest => rest
      | words => words
    let text := Utf8.ofString
      ((if words.isEmpty then "y" else String.intercalate " " words) ++ "\n")
    let count := 2 ^ 18 / text.length + 1
    { task.done (List.replicate count text).flatten with endless := true }

/-! ## Numbers -/

/-- Which lines get a number. -/
inductive NumberedLines where
  /-- All. -/
  | all
  /-- Those that are not empty. -/
  | notEmpty
  /-- None. -/
  | none
  deriving DecidableEq

/-- The lines that a word says get a number. -/
def numberedLines? (word : String) : Option NumberedLines :=
  match word with
  | "a" => some .all
  | "t" => some .notEmpty
  | "n" => some .none
  | _ => Option.none

/-- The number that a word is, which may be below zero. -/
def signedNumber? (word : String) : Option Int :=
  match word.toList with
  | '-' :: c :: rest =>
      if (c :: rest).all isDigit then some (-(decimal (c :: rest) : Int)) else none
  | c :: rest => if (c :: rest).all isDigit then some (decimal (c :: rest)) else none
  | [] => none

/-- How lines are numbered. -/
structure LineNumbering where
  /-- The lines of the three parts of a page that get numbers: its head, its body and its foot. -/
  parts : List NumberedLines
  /-- The number of columns of a number. -/
  width : Nat
  /-- What stands between the number and the line. -/
  separator : String
  /-- The first number. -/
  first : Int
  /-- The step between numbers. -/
  step : Int
  /-- How many empty lines count as one. -/
  group : Nat
  /-- Where in its columns a number stands, and what fills them. -/
  layout : String
  /-- Whether numbers go on from page to page. -/
  goesOn : Bool

/-- A number in its columns. -/
def LineNumbering.shown (numbering : LineNumbering) (number : Int) : String :=
  let digits := toString number.natAbs
  let sign := if number < 0 then "-" else ""
  let room := numbering.width - (sign ++ digits).length
  match numbering.layout with
  | "ln" => sign ++ digits ++ String.ofList (List.replicate room ' ')
  | "rz" => sign ++ String.ofList (List.replicate room '0') ++ digits
  | _ => String.ofList (List.replicate room ' ') ++ sign ++ digits

/-- Lines with their numbers. `part` is the part of the page, and `empties` the number of empty
lines just before. -/
def LineNumbering.run (numbering : LineNumbering) : (part : Nat) → (next : Int) →
    (empties : Nat) → List Octets → List Octets
  | _, _, _, [] => []
  | part, next, empties, line :: rest =>
    let starts (part : Nat) : List Octets :=
      let next := if numbering.goesOn then next else numbering.first
      [] :: numbering.run part next 0 rest
    if line = Utf8.ofString "\\:\\:\\:" then starts 0
    else if line = Utf8.ofString "\\:\\:" then starts 1
    else if line = Utf8.ofString "\\:" then starts 2
    else
      let isCounted : Bool :=
        match numbering.parts.getD part .none with
        | .none => false
        | .notEmpty => !line.isEmpty
        | .all => !line.isEmpty || empties + 1 ≥ numbering.group
      let empties := if line.isEmpty ∧ !isCounted then empties + 1 else 0
      if isCounted then
        (Utf8.ofString (numbering.shown next ++ numbering.separator) ++ line) ::
          numbering.run part (next + numbering.step) empties rest
      else
        (List.replicate (numbering.width + numbering.separator.length) 0x20 ++ line) ::
          numbering.run part next empties rest

/-- Numbers lines. -/
def nl : Utility := fun task =>
  let rules : OptionRules :=
    { flags := "p", takers := "bdfhilnsvw"
      names := [("body-numbering", 'b'), ("footer-numbering", 'f'), ("header-numbering", 'h'),
        ("line-increment", 'i'), ("join-blank-lines", 'l'), ("number-format", 'n'),
        ("no-renumber", 'p'), ("number-separator", 's'), ("starting-line-number", 'v'),
        ("number-width", 'w')] }
  task.withRules rules fun line =>
    let styles : List (Char × String × String) :=
      [('h', "header", "n"), ('b', "body", "t"), ('f', "footer", "n")]
    let badStyle := styles.findSome? fun (letter, name, _) =>
      (line.value? letter).bind fun word =>
        if (numberedLines? word).isSome then none
        else some ("invalid " ++ name ++ " numbering style: " ++ quotedArgument word)
    let badLayout := (line.value? 'n').bind fun word =>
      if ["ln", "rn", "rz"].contains word then none
      else some ("invalid line numbering format: " ++ quotedArgument word)
    let badNumber := ([('v', "starting line number", false), ('i', "line number increment", false),
        ('l', "line number of blank lines", true), ('w', "line number field width", true)] :
          List (Char × String × Bool)).findSome? fun (letter, name, positive) =>
      (line.value? letter).bind fun word =>
        let message := "invalid " ++ name ++ ": " ++ quotedArgument word
        match signedNumber? word with
        | none => some message
        | some n =>
          if positive ∧ n ≤ 0 then some (message ++ ": " ++ "Numerical result out of range")
          else none
    match badNumber, badStyle.or badLayout with
    | some message, _ => task.fails message
    | none, some message => task.misused message
    | none, none =>
      let number (letter : Char) (usual : Int) : Int :=
        ((line.value? letter).bind signedNumber?).getD usual
      let numbering : LineNumbering :=
        { parts := styles.map fun (letter, _, usual) =>
            (numberedLines? ((line.value? letter).getD usual)).getD .none
          width := (number 'w' 6).toNat
          separator := (line.value? 's').getD "\t"
          first := number 'v' 1
          step := number 'i' 1
          group := (number 'l' 1).toNat
          layout := (line.value? 'n').getD "rn"
          goesOn := line.has 'p' }
      let report := task.overInputs line.operands fun _ octets report => report.adds octets
      report.withOutput (ofLines (numbering.run 1 numbering.first 0 (linesOf report.output)))

/-! ## Side by side -/

/-- The separators that a list of them says, one after the other: each an octet or none. -/
def separatorsIn : List Char → List Octets
  | [] => []
  | '\\' :: c :: rest =>
    let octets : Octets :=
      match c with
      | 'n' => [0x0A]
      | 't' => [0x09]
      | '0' => []
      | 'b' => [0x08]
      | 'f' => [0x0C]
      | 'r' => [0x0D]
      | 'v' => [0x0B]
      | c => Utf8.encodeChar c
    octets :: separatorsIn rest
  | c :: rest => Utf8.encodeChar c :: separatorsIn rest

/-- Texts with separators between them, which are taken in turn. -/
def joinedInTurn (separators : List Octets) (texts : List Octets) : Octets :=
  let count := separators.length
  (texts.zipIdx.map fun (text, i) =>
    if i = 0 then text else separators.getD ((i - 1) % max count 1) [] ++ text).flatten

/-- The lines of inputs in turn, where inputs with the same name share their lines. -/
def pastedRows (columns : List (Option String)) : (fuel : Nat) → List (List Octets) →
    (shared : List Octets) → List (List Octets)
  | 0, _, _ => []
  | fuel + 1, inputs, shared =>
    let (row, inputs, shared, found) := (columns.zip inputs).foldl
      (fun ((row, rest, shared, found) :
          List Octets × List (List Octets) × List Octets × Bool) (column, lines) =>
        match column with
        | none =>
          (row ++ [shared.headD []], rest ++ [[]], shared.tail, found || !shared.isEmpty)
        | some _ =>
          (row ++ [lines.headD []], rest ++ [lines.tail], shared, found || !lines.isEmpty))
      (([], [], shared, false) : List Octets × List (List Octets) × List Octets × Bool)
    if found then row :: pastedRows columns fuel inputs shared else []

/-- Sets the lines of its inputs side by side, or the lines of each input behind each other. -/
def paste : Utility := fun task =>
  let rules : OptionRules :=
    { flags := "sz", takers := "d"
      names := [("serial", 's'), ("delimiters", 'd'), ("zero-terminated", 'z')] }
  task.withRules rules fun line =>
    let ending : UInt8 := if line.has 'z' then 0 else 0x0A
    let word := (line.value? 'd').getD "\t"
    let isCut := (word.toList.reverse.takeWhile (· = '\\')).length % 2 = 1
    let separators := if word.isEmpty then [[]] else separatorsIn word.toList
    let words := if line.operands.isEmpty then ["-"] else line.operands
    let inputs := words.map fun word => (word, task.octetsOf word)
    let idle := if words.any isInputName then { task.idle with unread := [] } else task.idle
    if isCut then
      task.fails ("delimiter list ends with an unescaped backslash: " ++ word)
    else if line.has 's' then
      (inputs.foldl
        (fun ((report, used) : Report × Bool) (word, found) =>
          match found with
          | .error error =>
            (report.complains (task.name ++ ": " ++ plainWording word error), used)
          | .ok octets =>
            let octets := if isInputName word ∧ used then [] else octets
            (report.adds (joinedInTurn separators (recordsOf ending octets) ++ [ending]),
              used || isInputName word))
        (idle, false)).1
    else
      match inputs.findSome? fun (word, found) => found.toOption.elim (some word) fun _ => none with
      | some word =>
        match task.octetsOf word with
        | .error error => task.fails (plainWording word error)
        | .ok _ => idle
      | none =>
        let lines (word : String) : List Octets :=
          recordsOf ending (((task.octetsOf word).toOption).getD [])
        let columns := words.map fun word => if isInputName word then none else some word
        let texts := words.map fun word => if isInputName word then [] else lines word
        let fuel := sumOf (inputs.map fun (word, _) => (lines word).length) + 1
        let rows := pastedRows columns fuel texts (recordsOf ending task.input)
        idle.adds (rows.flatMap fun row => joinedInTurn separators row ++ [ending])

/-! ## Widths -/

/-- The column behind an octet. -/
def columnBehind (column : Nat) (octet : UInt8) : Nat :=
  if octet = 0x09 then column + 8 - column % 8
  else if octet = 0x08 then column - 1
  else if octet = 0x0D then 0
  else column + 1

/-- A line broken into pieces that are not too wide, at a blank if that is asked for. `current` is
the reversed piece so far. -/
def foldLine (width : Nat) (counts atBlanks : Bool) : (fuel : Nat) → (current : Octets) →
    (column : Nat) → Octets → List Octets
  | 0, current, _, rest => [current.reverse ++ rest]
  | _, current, _, [] => [current.reverse]
  | fuel + 1, current, column, octet :: rest =>
    let next := if counts then column + 1 else columnBehind column octet
    if next > width ∧ !current.isEmpty then
      let tail := current.takeWhile fun octet => !(octet == 0x20 || octet == 0x09)
      if atBlanks ∧ tail.length < current.length then
        let kept := current.drop tail.length
        let column := tail.foldr (fun octet column =>
          if counts then column + 1 else columnBehind column octet) 0
        kept.reverse :: foldLine width counts atBlanks fuel tail column (octet :: rest)
      else current.reverse :: foldLine width counts atBlanks fuel [] 0 (octet :: rest)
    else foldLine width counts atBlanks fuel (octet :: current) next rest

/-- Arguments whose option may be a hyphen and a number, which then stands for an option with that
value. -/
def withNumberOption (letter : Char) (arguments : List String) : List String :=
  arguments.map fun word =>
    match word.toList with
    | '-' :: c :: rest =>
      if (c :: rest).all isDigit then String.ofList ('-' :: letter :: c :: rest) else word
    | _ => word

/-- Breaks long lines. -/
def fold : Utility := fun task =>
  let rules : OptionRules :=
    { flags := "bs", takers := "w", names := [("bytes", 'b'), ("spaces", 's'), ("width", 'w')] }
  { task with arguments := withNumberOption 'w' task.arguments }.withRules rules fun line =>
    let word := (line.value? 'w').getD "80"
    let isNumber := !word.isEmpty && word.toList.all isDigit
    let width := decimal word.toList
    if !isNumber then task.fails ("invalid number of columns: " ++ quotedArgument word)
    else if width = 0 then
      task.fails ("invalid number of columns: " ++ quotedArgument word ++
        ": Numerical result out of range")
    else
      task.overInputs line.operands fun _ octets report =>
        report.adds ((brokenLinesOf octets).flatMap fun (text : Octets) =>
          let body := if text.getLast? = some 0x0A then text.dropLast else text
          let pieces := foldLine width (line.has 'b') (line.has 's') (2 * body.length + 2) [] 0 body
          (pieces.intersperse [0x0A]).flatten ++ text.drop body.length)

/-- The stops of tabs: a distance, or a list of columns. -/
inductive TabStops where
  /-- One after each so many columns. -/
  | every (distance : Nat)
  /-- One at each of these columns, and behind them none. -/
  | columns (stops : List Nat)

/-- The next stop behind a column. -/
def TabStops.next (stops : TabStops) (column : Nat) : Option Nat :=
  match stops with
  | .every distance => some (column + distance - column % max distance 1)
  | .columns stops => stops.find? (column < ·)

/-- Reads stops. -/
def TabStops.read (word : String) : Except String TabStops :=
  let parts := (Text.splitAtEach ',' (word.toList.map fun c => if c = ' ' then ',' else c)).filter
    (!·.isEmpty)
  if !parts.all (·.all isDigit) then
    .error ("tab size contains invalid character(s): " ++ quotedArgument
      (String.ofList (word.toList.dropWhile fun c => isDigit c ∨ c = ',' ∨ c = ' ')))
  else
    match parts.map decimal with
    | [] => .ok (.every 8)
    | [0] => .error "tab size cannot be 0"
    | [distance] => .ok (.every distance)
    | stops =>
      if stops.contains 0 then .error "tab size cannot be 0"
      else if (stops.zip stops.tail).all fun (a, b) => a < b then .ok (.columns stops)
      else .error "tab sizes must be ascending"

/-- A line whose tabs are blanks. Only those before the first other character are, if that is asked
for. -/
def expandLine (stops : TabStops) (onlyLeading : Bool) : (column : Nat) → Octets → Octets
  | _, [] => []
  | column, octet :: rest =>
    if octet = 0x09 then
      let next := (stops.next column).getD (column + 1)
      List.replicate (next - column) 0x20 ++ expandLine stops onlyLeading next rest
    else if onlyLeading ∧ octet ≠ 0x20 then octet :: rest
    else
      octet :: expandLine stops onlyLeading (if octet = 0x08 then column - 1 else column + 1) rest

/-- Runs a utility with the stops that its command line says. -/
def withStops (task : Task) (line : CommandLine) (body : TabStops → Report) : Report :=
  match TabStops.read (String.intercalate "," (line.allValues 't')) with
  | .error message => task.fails message
  | .ok stops => body stops

/-- Turns tabs into blanks. -/
def expand : Utility := fun task =>
  let rules : OptionRules :=
    { flags := "i", takers := "t", names := [("initial", 'i'), ("tabs", 't')] }
  { task with arguments := withNumberOption 't' task.arguments }.withRules rules fun line =>
    withStops task line fun stops =>
      task.overInputs line.operands fun _ octets report =>
        report.adds ((brokenLinesOf octets).flatMap (expandLine stops (line.has 'i') 0))

/-- A line whose runs of blanks that reach a stop are tabs. `start` is the column at which the
blanks before the rest start, and `column` the one at which they end. -/
def unexpandLine (stops : TabStops) (all : Bool) : (start column : Nat) → (sawOther : Bool) →
    Octets → Octets
  | start, column, _, [] => List.replicate (column - start) 0x20
  | start, column, sawOther, octet :: rest =>
    if (octet = 0x20 ∨ octet = 0x09) ∧ (all ∨ !sawOther) then
      let next := if octet = 0x09 then (stops.next column).getD (column + 1) else column + 1
      let stop := stops.next (next - 1)
      let reaches := octet = 0x09 ∨ stops.next column = some next
      if reaches ∧ (stop = some next ∨ octet = 0x09) ∧
          (next - start > 1 ∨ octet = 0x09 ∨ rest.head? = some 0x20 ∨ rest.head? = some 0x09) then
        0x09 :: unexpandLine stops all next next sawOther rest
      else unexpandLine stops all start next sawOther rest
    else
      List.replicate (column - start) 0x20 ++
        octet :: unexpandLine stops all (column + 1) (column + 1) (sawOther || octet != 0x20) rest

/-- Turns blanks into tabs. -/
def unexpand : Utility := fun task =>
  let rules : OptionRules :=
    { flags := "af", takers := "t"
      names := [("all", 'a'), ("first-only", 'f'), ("tabs", 't')] }
  { task with arguments := withNumberOption 't' task.arguments }.withRules rules fun line =>
    withStops task line fun stops =>
      let all := line.hasAny "at" && !line.has 'f'
      task.overInputs line.operands fun _ octets report =>
        report.adds ((brokenLinesOf octets).flatMap fun (text : Octets) =>
          let body := if text.getLast? = some 0x0A then text.dropLast else text
          unexpandLine stops all 0 0 false body ++ text.drop body.length)

/-! ## Several files -/

/-- Octets in pieces of a length. -/
def piecesOf (size : Nat) : (fuel : Nat) → Octets → List Octets
  | 0, octets => [octets]
  | _, [] => []
  | fuel + 1, octets => octets.take size :: piecesOf size fuel (octets.drop size)

/-- Lines in groups of a size. -/
def groupsOf (size : Nat) : (fuel : Nat) → List Octets → List Octets
  | 0, lines => [lines.flatten]
  | _, [] => []
  | fuel + 1, lines => (lines.take size).flatten :: groupsOf size fuel (lines.drop size)

/-- Lines in groups that are not longer than a size, where longer lines are cut. -/
def packedLines (size : Nat) : (fuel : Nat) → (current : Octets) → List Octets → List Octets
  | 0, current, lines => [current ++ lines.flatten]
  | _, current, [] => if current.isEmpty then [] else [current]
  | fuel + 1, current, line :: rest =>
    if current.length + line.length ≤ size then packedLines size fuel (current ++ line) rest
    else if !current.isEmpty then current :: packedLines size fuel [] (line :: rest)
    else line.take size :: packedLines size fuel [] (line.drop size :: rest)

/-- Octets in so many pieces of about the same length. -/
def chunksOf (count : Nat) (octets : Octets) : List Octets :=
  let size := octets.length / count
  let longer := octets.length % count
  (List.range count).map fun i =>
    let start := i * size + min i longer
    (octets.drop start).take (if i < longer then size + 1 else size)

/-- Lines in so many pieces, each line in the piece in which it starts. -/
def lineChunksOf (count : Nat) (octets : Octets) : List Octets :=
  let ends := (chunksOf count octets).foldl
    (fun (ends : List Nat) chunk => ends ++ [ends.getLast?.getD 0 + chunk.length]) []
  let lines := brokenLinesOf octets
  let starts := lines.foldl (fun (starts : List Nat) line =>
    starts ++ [starts.getLast?.getD 0 + line.length]) [0]
  (List.range count).map fun i =>
    let low := if i = 0 then 0 else ends.getD (i - 1) 0
    let high := ends.getD i 0
    ((lines.zip starts).filterMap fun (line, start) =>
      if low ≤ start ∧ start < high then some line else none).flatten

/-- Lines dealt out in turn to so many pieces. -/
def dealtOf (count : Nat) (octets : Octets) : List Octets :=
  (List.range count).map fun i =>
    ((brokenLinesOf octets).zipIdx.filterMap fun (line, k) =>
      if k % count = i then some line else none).flatten

/-- The suffix of the file with a number: letters or digits, of a fixed length or longer and longer
ones. -/
def suffixOf (digits : List Char) (fixed : Option Nat) (number : Nat) : Option String :=
  let base := digits.length
  let rec write (length number : Nat) : List Char :=
    match length with
    | 0 => []
    | length + 1 => write length (number / base) ++ [digits.getD (number % base) 'a']
  match fixed with
  | some length =>
      if number < base ^ length then some (String.ofList (write length number)) else none
  | none =>
    let rec widen (fuel length number : Nat) : String :=
      let room := (base - 1) * base ^ (length - 1)
      let lead := List.replicate (length - 2) (digits.getLast?.getD 'z')
      match fuel with
      | 0 => ""
      | fuel + 1 =>
        if number < room then String.ofList (lead ++ write length number)
        else widen fuel (length + 1) (number - room)
    some (widen 8 2 number)

/-- Cuts a file into several. -/
def split : Utility := fun task =>
  let rules : OptionRules :=
    { flags := "deuxq", takers := "abClntDXF", optional := ""
      names := [("lines", 'l'), ("bytes", 'b'), ("line-bytes", 'C'), ("number", 'n'),
        ("suffix-length", 'a'), ("numeric-suffixes", 'd'), ("hex-suffixes", 'x'),
        ("additional-suffix", 'X'), ("verbose", 'q'), ("elide-empty-files", 'e'),
        ("separator", 't')] }
  { task with arguments := withNumberOption 'l' task.arguments }.withRules rules fun line =>
    let ways := ['l', 'b', 'C', 'n'].filter line.has
    let bad (what word : String) : Report :=
      task.fails ("invalid number of " ++ what ++ ": " ++ quotedArgument word)
    match line.operands with
    | _ :: _ :: extra :: _ => task.misused ("extra operand " ++ quotedArgument extra)
    | operands =>
      let input := operands.headD "-"
      let start := operands.getD 1 "x"
      if ways.length > 1 then task.misused "cannot split in more than one way"
      else
        let size (word : String) : Option Nat := (sizeIn? word.toList).filter (· > 0)
        let pieces : Except Report (Octets → List Octets) :=
          match line.value? 'b', line.value? 'C', line.value? 'n', line.value? 'l' with
          | some word, _, _, _ =>
            match size word with
            | some n => .ok fun octets => piecesOf n (octets.length + 1) octets
            | none => .error (bad "bytes" word)
          | _, some word, _, _ =>
            match size word with
            | some n => .ok fun octets =>
              packedLines n (2 * octets.length + 2) [] (brokenLinesOf octets)
            | none => .error (bad "bytes" word)
          | _, _, some word, _ =>
            let (kind, digits) :=
              match word.toList with
              | 'l' :: '/' :: digits => ('l', digits)
              | 'r' :: '/' :: digits => ('r', digits)
              | digits => ('b', digits)
            if digits.isEmpty ∨ !digits.all isDigit ∨ decimal digits = 0 then
              .error (bad "chunks" (String.ofList digits))
            else
              let count := decimal digits
              match kind with
              | 'l' => .ok (lineChunksOf count)
              | 'r' => .ok (dealtOf count)
              | _ => .ok (chunksOf count)
          | _, _, _, word =>
            let word := word.getD "1000"
            match size word with
            | some n => .ok fun octets => groupsOf n (octets.length + 1) (brokenLinesOf octets)
            | none => .error (bad "lines" word)
        match pieces, task.octetsOf input with
        | .error report, _ => report
        | .ok _, .error .isDirectory => task.fails (plainWording input .isDirectory)
        | .ok _, .error error =>
          task.fails ("cannot open " ++ quotedAlways input ++ " for reading: " ++ error.reason)
        | .ok pieces, .ok octets =>
          let idle := if isInputName input then { task.idle with unread := [] } else task.idle
          let digits := if line.has 'x' then "0123456789abcdef".toList
            else if line.has 'd' then "0123456789".toList
            else "abcdefghijklmnopqrstuvwxyz".toList
          let fixed := ((line.value? 'a').map fun (word : String) =>
            decimal word.toList).filter (· > 0)
          let found := pieces octets
          let found :=
            if line.has 'e' then found.filter fun (piece : Octets) => !piece.isEmpty else found
          let needed := (toString (found.length - 1)).length
          let fixed := if line.has 'n' ∧ fixed.isNone ∧ line.has 'd' then some (max 2 needed)
            else fixed
          found.zipIdx.foldl
            (fun (report : Report) (piece, i) =>
              if report.status ≠ 0 then report
              else
                match suffixOf digits fixed i with
                | none => report.complains (task.name ++ ": output file suffixes exhausted")
                | some suffix =>
                  let path := start ++ suffix ++ (line.value? 'X').getD ""
                  let report := if line.has 'q' then
                      Report.prints report ("creating file " ++ quotedAlways path ++ "\n")
                    else report
                  report.attempts (task.name ++ ": " ++ quoted path) (Disk.write path piece))
            idle

end HistoryExpansion.Shell.Utility
