import HistoryExpansion.Shell.Escape
import HistoryExpansion.Shell.Pattern
import HistoryExpansion.Shell.Utility.Basic

/-!
# Utilities for text

Programs that pass their input on, in part or changed. Input is octets, and lines end at line
breaks.
-/

namespace HistoryExpansion.Shell.Utility

/-! ## Whole inputs -/

/-- The lines of octets, each with its line break if it has one. -/
def brokenLinesOf (octets : Octets) : List Octets :=
  let lines := linesOf octets
  if octets.getLast? = some 0x0A then lines.map (· ++ [0x0A])
  else lines.dropLast.map (· ++ [0x0A]) ++ lines.getLast?.toList

/-- A text filled with blanks on its left. -/
def padded (width : Nat) (text : String) : String :=
  String.ofList (List.replicate (width - text.length) ' ') ++ text

/-- An octet as characters that can be seen: a control character is a caret and a letter, and an
octet beyond the first half stands behind a mark. -/
def visible (octet : UInt8) : Octets :=
  let lower := octet % 0x80
  (if octet < 0x80 then [] else Utf8.ofString "M-") ++
    (if lower < 0x20 then [0x5E, lower + 0x40] else if lower = 0x7F then [0x5E, 0x3F]
      else [lower])

/-- Lines without empty ones behind an empty one. -/
def withoutEmptyRuns : List Octets → List Octets
  | [] => []
  | [line] => [line]
  | first :: second :: rest =>
    if first = [0x0A] ∧ second = [0x0A] then withoutEmptyRuns (second :: rest)
    else first :: withoutEmptyRuns (second :: rest)

/-- Lines with their numbers before them; empty ones are left out of account or not. -/
def numbered (countsEmpty : Bool) : (next : Nat) → List Octets → List Octets
  | _, [] => []
  | next, line :: rest =>
    if line = [0x0A] ∧ !countsEmpty then line :: numbered countsEmpty next rest
    else
      (Utf8.ofString (padded 6 (toString next) ++ "\t") ++ line) ::
        numbered countsEmpty (next + 1) rest

/-- Passes its inputs on, with what cannot be seen made visible if that is asked for. -/
def cat : Utility := fun task =>
  task.withOptions "nbsuEeTtvA" "" fun line =>
    let any (letters : String) : Bool := letters.toList.any line.has
    let shown (octet : UInt8) : Octets :=
      if octet = 0x0A then if any "EeA" then [0x24, 0x0A] else [0x0A]
      else if octet = 0x09 then if any "TtA" then visible octet else [octet]
      else if any "vetA" then visible octet
      else [octet]
    let report := task.overInputs line.operands fun _ octets report => report.adds octets
    let lines := brokenLinesOf report.output
    let lines := if line.has 's' then withoutEmptyRuns lines else lines
    let marked :=
      if any "nb" then numbered (!line.has 'b') 1 lines else lines
    let leads := (marked.zip lines).map fun (marked, line) =>
      marked.take (marked.length - line.length) ++ line.flatMap shown
    report.withOutput leads.flatten

/-! ## Parts of inputs -/

/-- The number that a count of lines or octets is, with its sign. -/
def countOf (word : String) : Option Char × Nat :=
  match word.toList with
  | '-' :: rest => (some '-', decimal (rest.takeWhile isDigit))
  | '+' :: rest => (some '+', decimal (rest.takeWhile isDigit))
  | rest => (none, decimal (rest.takeWhile isDigit))

/-- Arguments whose first one may be a hyphen and a number, which then stands for the option
`-n`. -/
def withShortCount (arguments : List String) : List String :=
  match arguments with
  | word :: rest =>
    match word.toList with
    | '-' :: c :: _ => if isDigit c then "-n" :: (word.drop 1).toString :: rest else arguments
    | _ => arguments
  | [] => []

/-- Octets with a heading when there are several inputs. -/
def headed (several : Bool) (word : String) (octets : Octets) (report : Report) : Report :=
  if several then
    let gap := if report.output.isEmpty then "" else "\n"
    let name := if word = "-" then "standard input" else word
    (report.adds (Utf8.ofString (gap ++ "==> " ++ name ++ " <==\n"))).adds octets
  else report.adds octets

/-- The complaint of a utility that takes a part of each input. -/
def partWording : Wording :=
  readingWording fun word error =>
    "cannot open " ++ quotedAlways word ++ " for reading: " ++ error.reason

/-- Runs a utility unless the count of lines or octets that it is given is none. -/
def withCount (task : Task) (line : CommandLine) (body : Report) : Report :=
  let isCount (word : String) : Bool :=
    match word.toList with
    | sign :: rest =>
      let digits := if sign = '-' ∨ sign = '+' then rest else sign :: rest
      !digits.isEmpty && digits.all isDigit
    | [] => false
  match line.value? 'c', line.value? 'n' with
  | some word, _ =>
    if isCount word then body else task.fails ("invalid number of bytes: " ++ quotedArgument word)
  | none, some word =>
    if isCount word then body else task.fails ("invalid number of lines: " ++ quotedArgument word)
  | none, none => body

/-- Passes the start of its inputs on. -/
def head : Utility := fun task =>
  { task with arguments := withShortCount task.arguments }.withOptions "qv" "nc" fun line =>
    let take (octets : Octets) : Octets :=
      match line.value? 'c' with
      | some count =>
        match countOf count with
        | (some '-', n) => octets.take (octets.length - n)
        | (_, n) => octets.take n
      | none =>
        let lines := brokenLinesOf octets
        match countOf ((line.value? 'n').getD "10") with
        | (some '-', n) => (lines.take (lines.length - n)).flatten
        | (_, n) => (lines.take n).flatten
    let part (word : String) (octets : Octets) (report : Report) : Report :=
      headed (line.operands.length > 1 && !line.has 'q') word (take octets) report
    let report := task.overInputs line.operands part partWording
    let report :=
      if report.unread = task.input then report
      else
        let rest := task.input.drop (take task.input).length
        { report with unread := task.leftOver rest (if line.has 'c' then 1 else 8192) }
    withCount task line report

/-- Passes the end of its inputs on. -/
def tail : Utility := fun task =>
  { task with arguments := withShortCount task.arguments }.withOptions "qv" "nc" fun line =>
    let take (octets : Octets) : Octets :=
      match line.value? 'c' with
      | some count =>
        match countOf count with
        | (some '+', n) => octets.drop (n - 1)
        | (_, n) => octets.drop (octets.length - n)
      | none =>
        let lines := brokenLinesOf octets
        match countOf ((line.value? 'n').getD "10") with
        | (some '+', n) => (lines.drop (n - 1)).flatten
        | (_, n) => (lines.drop (lines.length - n)).flatten
    let part (word : String) (octets : Octets) (report : Report) : Report :=
      headed (line.operands.length > 1 && !line.has 'q') word (take octets) report
    withCount task line (task.overInputs line.operands part partWording)

/-! ## Counts -/

/-- The blanks that part words. -/
def isSpaceOctet (octet : UInt8) : Bool :=
  octet == 0x20 || (0x09 ≤ octet && octet ≤ 0x0D)

/-- The number of words. -/
def wordCount (octets : Octets) : Nat :=
  (octets.foldl
    (fun (count, within) octet =>
      if isSpaceOctet octet then (count, false)
      else if within then (count, true) else (count + 1, true))
    ((0, false) : Nat × Bool)).1

/-- Counts lines, words and octets. -/
def wc : Utility := fun task =>
  task.withOptions "lwcm" "" fun line =>
    let counts (octets : Octets) : List Nat :=
      let all := line.letters.isEmpty
      (if all || line.has 'l' then [octets.count 0x0A] else []) ++
        (if all || line.has 'w' then [wordCount octets] else []) ++
        (if line.has 'm' then [(Utf8.decodeLossy octets).length] else []) ++
        (if all || line.has 'c' then [octets.length] else [])
    let words := if line.operands.isEmpty then ["-"] else line.operands
    let found := words.filterMap fun word =>
      match task.octetsOf word with
      | .ok octets => some (word, octets)
      | .error _ => none
    let several := words.length > 1
    let total := sumOf (found.map fun (_, octets) => octets.length)
    let single := (counts []).length = 1
    let width :=
      if single && !several then 1
      else if words.contains "-" then 7
      else (toString total).length
    let row (numbers : List Nat) (name : String) : String :=
      String.intercalate " " (numbers.map fun n => padded width (toString n)) ++
        (if name = "" then "" else " " ++ name) ++ "\n"
    let lineOf (word : String) (octets : Octets) : Octets :=
      Utf8.ofString (row (counts octets) (if line.operands.isEmpty then "" else word))
    let report := words.foldl
      (fun (report : Report) word =>
        match task.octetsOf word with
        | .ok octets =>
          let report := report.adds (lineOf word octets)
          if word = "-" then { report with unread := [] } else report
        | .error error =>
          let reason :=
            if word = "" then "invalid zero-length file name" else plainWording word error
          let report := report.complains (task.name ++ ": " ++ reason)
          if error = .isDirectory then report.adds (lineOf word []) else report)
      task.idle
    if several then
      report.adds (Utf8.ofString (row (counts (found.flatMap Prod.snd)) "total"))
    else report

/-! ## Characters -/

/-- The octets that a set of characters stands for. -/
def octetsInSet : (fuel : Nat) → List Char → Octets
  | 0, _ => []
  | _, [] => []
  | fuel + 1, '[' :: ':' :: rest =>
    let name := rest.takeWhile (· ≠ ':')
    match rest.drop name.length with
    | ':' :: ']' :: behind =>
      ((classRanges (String.ofList name)).flatMap fun (low, high) =>
          (List.range (high.toNat + 1 - low.toNat)).map fun n => (low.toNat + n).toUInt8) ++
        octetsInSet fuel behind
    | _ => 0x5B :: octetsInSet fuel (':' :: rest)
  | fuel + 1, '\\' :: rest =>
    match takeEscape {} rest with
    | (.octets octets, rest) => octets ++ octetsInSet fuel rest
    | (.stop, rest) => octetsInSet fuel rest
  | fuel + 1, low :: '-' :: high :: rest =>
    (List.range (high.toNat + 1 - low.toNat)).map (fun n => (low.toNat + n).toUInt8) ++
      octetsInSet fuel rest
  | fuel + 1, c :: rest => Utf8.encodeChar c ++ octetsInSet fuel rest

/-- Octets without those of a set that repeat the one before. -/
def squeezed (inSet : UInt8 → Bool) : Octets → Octets
  | [] => []
  | [octet] => [octet]
  | first :: second :: rest =>
    if first = second ∧ inSet first then squeezed inSet (second :: rest)
    else first :: squeezed inSet (second :: rest)

/-- Changes or deletes the octets of a set. -/
def tr : Utility := fun task =>
  task.withOptions "cCds" "" fun line =>
    let setOf (word : String) : Octets := octetsInSet (word.length + 1) word.toList
    let first := setOf (line.operands.headD "")
    let second := setOf ((line.operands.drop 1).headD "")
    let complement := line.has 'c' || line.has 'C'
    let within (octet : UInt8) : Bool := first.contains octet != complement
    let change (octet : UInt8) : UInt8 :=
      if !within octet ∨ second.isEmpty then octet
      else if complement then (second.getLast?).getD octet
      else (second[first.idxOf octet]?).getD ((second.getLast?).getD octet)
    let output :=
      if line.operands.isEmpty then []
      else if line.has 'd' then task.input.filter fun octet => !within octet
      else if second.isEmpty then task.input
      else task.input.map change
    let squeezes := if second.isEmpty then within else second.contains
    let report := { task.done (if line.has 's' then squeezed squeezes output else output) with
      unread := [] }
    match line.operands with
    | [] => task.misused "missing operand"
    | [only] =>
      if line.has 'd' ∨ line.has 's' then report
      else
        ((task.fails ("missing operand after " ++ quotedArgument only)).warns
          "Two strings must be given when translating.").warns task.advice
    | _ :: other :: _ =>
      if other = "" ∧ !first.isEmpty ∧ !line.has 'd' ∧ !line.has 's' then
        task.fails "when not truncating set1, string2 must be non-empty"
      else report

/-- The positions that a list of ranges names, up to a last one. -/
def positionsIn (word : String) (last : Nat) : List Nat :=
  let parts := (Text.splitAtEach ',' word.toList).flatMap fun range =>
    match Text.splitAtEach '-' range with
    | [[], high] => List.range' 1 (decimal high)
    | [low, []] => List.range' (decimal low) (last + 1 - decimal low)
    | [low, high] => List.range' (decimal low) (decimal high + 1 - decimal low)
    | low :: _ => [decimal low]
    | [] => []
  (List.range' 1 last).filter parts.contains

/-- What is wrong with a list of ranges of fields, or of positions. -/
def rangesFault? (fields : Bool) (word : String) : Option String :=
  let faultOf (range : List Char) : Option String :=
    let (low, behind) := range.span (· ≠ '-')
    let high := behind.drop 1
    let bad := range.dropWhile fun c => isDigit c || c == '-'
    if !bad.isEmpty then
      some ((if fields then "invalid field value " else "invalid byte/character position ") ++
        quotedArgument (String.ofList bad))
    else if high.contains '-' then
      some (if fields then "invalid field range" else "invalid byte or character range")
    else if range = ['-'] then some "invalid range with no endpoint: -"
    else if decimal low = 0 ∧ (!low.isEmpty || behind.isEmpty) then
      some ((if fields then "fields" else "byte/character positions") ++ " are numbered from 1")
    else if !high.isEmpty ∧ decimal high < decimal low then some "invalid decreasing range"
    else none
  (Text.splitAtEach ',' word.toList).findSome? faultOf

/-- The part of a line that ranges of positions or fields choose; nothing if a line without fields
is left out. -/
def chosenPart (line : CommandLine) (text : Octets) : Option Octets :=
  match (line.value? 'c').or (line.value? 'b') with
  | some list => some ((positionsIn list text.length).filterMap fun n => text[n - 1]?)
  | none =>
    let separator := (Utf8.ofString ((line.value? 'd').getD "\t")).headD 0
    if text.contains separator then
      let fields := linesOf ((text.map fun octet =>
        if octet = separator then 0x0A else octet) ++ [0x0A])
      let chosen := (positionsIn ((line.value? 'f').getD "") fields.length).filterMap fun n =>
        fields[n - 1]?
      some ((chosen.intersperse [separator]).flatten)
    else if line.has 's' then none
    else some text

/-- Passes parts of each line of its inputs on. -/
def cut : Utility := fun task =>
  task.withOptions "s" "dfcb" fun line =>
    let lists := line.letters.filter "fcb".toList.contains
    let word := (lists.head?.bind line.value?).getD ""
    if lists.isEmpty then
      task.misused "you must specify a list of bytes, characters, or fields"
    else if lists.length > 1 then task.misused "only one list may be specified"
    else
      let wide := (line.value? 'd').any fun word => (Utf8.ofString word).length > 1
      if wide then task.misused "the delimiter must be a single character"
      else if line.has 'd' ∧ !line.has 'f' then
        task.misused "an input delimiter may be specified only when operating on fields"
      else
        match rangesFault? (line.has 'f') word with
        | some fault => task.misused fault
        | none =>
          task.overInputs line.operands fun _ octets report =>
            report.adds (ofLines ((linesOf octets).filterMap (chosenPart line)))

/-- Passes its input on and writes it to files. -/
def tee : Utility := fun task =>
  task.withOptions "aip" "" fun line =>
    line.operands.foldl
      (fun report path =>
        let old := if line.has 'a' then ((report.disk.read path).toOption).getD [] else []
        report.attempts (task.name ++ ": " ++ quoted path) (Disk.write path (old ++ task.input)))
      { task.done task.input with unread := [] }

end HistoryExpansion.Shell.Utility
