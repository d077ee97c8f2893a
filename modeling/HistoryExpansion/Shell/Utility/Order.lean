import HistoryExpansion.Number
import HistoryExpansion.Shell.Utility.Basic
import HistoryExpansion.Shell.Word

/-!
# Orders of lines

Lines are compared by keys, which are parts of them, each in an order of its own: by octets, as
numbers, as months or as versions. Where all keys are the same the whole lines decide.
-/

namespace HistoryExpansion.Shell.Utility

/-! ## Orders -/

/-- The order of octets, one by one. -/
def compareOctets : Octets → Octets → Ordering
  | [], [] => .eq
  | [], _ => .lt
  | _, [] => .gt
  | a :: as, b :: bs => if a < b then .lt else if b < a then .gt else compareOctets as bs

/-- Whether an octet is a blank. -/
def isBlankOctet (octet : UInt8) : Bool :=
  octet == 0x20 || octet == 0x09 || octet == 0x0A

/-- Whether an octet is a digit. -/
def isDigitOctet (octet : UInt8) : Bool :=
  0x30 ≤ octet && octet ≤ 0x39

/-- The value of digits. -/
def digitsValue (digits : Octets) : Nat :=
  digits.foldl (fun value octet => value * 10 + (octet.toNat - 0x30)) 0

/-- A decimal: a value of so many places, and the text behind it. -/
structure DecimalText where
  /-- The digits as one number, with the sign. -/
  units : Int
  /-- The number of digits behind the point. -/
  places : Nat
  /-- What stands behind. -/
  rest : Octets
  /-- Whether there is any digit. -/
  isNumber : Bool

/-- The decimal that a text starts with, behind blanks. -/
def leadingDecimal (text : Octets) : DecimalText :=
  let text := text.dropWhile isBlankOctet
  let (negative, body) :=
    match text with
    | 0x2D :: rest => (true, rest)
    | rest => (false, rest)
  let whole := body.takeWhile isDigitOctet
  let behind := body.drop whole.length
  let (part, rest) :=
    match behind with
    | 0x2E :: rest => (rest.takeWhile isDigitOctet, rest.dropWhile isDigitOctet)
    | rest => ([], rest)
  let size : Int := digitsValue (whole ++ part)
  ⟨if negative then -size else size, part.length, rest, !(whole.isEmpty && part.isEmpty)⟩

/-- The order of two decimals. -/
def compareDecimals (a b : DecimalText) : Ordering :=
  compare (a.units * 10 ^ (b.places - a.places)) (b.units * 10 ^ (a.places - b.places))

/-- The power of a thousand that a letter behind a number stands for. -/
def unitRank (text : Octets) : Nat :=
  match text with
  | [] => 0
  | octet :: _ =>
    match ("KMGTPEZY".toList.map fun c => (Utf8.encodeChar c).headD 0).idxOf? octet with
    | some i => i + 1
    | none => if octet = 0x6B then 1 else 0

/-- The order of numbers with letters for their units. -/
def compareShort (a b : Octets) : Ordering :=
  let a := leadingDecimal a
  let b := leadingDecimal b
  let rank (d : DecimalText) : Int :=
    if d.units = 0 then 0 else if d.units < 0 then -((unitRank d.rest : Int) + 1)
    else (unitRank d.rest : Int) + 1
  match compare (rank a) (rank b) with
  | .eq => compareDecimals a b
  | other => other

/-- The exponent of ten that a text starts with, behind a letter for it. -/
def leadingExponent (text : Octets) : Int :=
  match text with
  | e :: rest =>
    if e = 0x65 ∨ e = 0x45 then
      let (negative, digits) :=
        match rest with
        | 0x2D :: rest => (true, rest)
        | 0x2B :: rest => (false, rest)
        | rest => (false, rest)
      let size : Int := min (digitsValue (digits.takeWhile isDigitOctet)) 4096
      if negative then -size else size
    else 0
  | [] => 0

/-- The order of numbers with exponents; what is no number comes first. -/
def compareGeneral (a b : Octets) : Ordering :=
  let unsign (text : Octets) : Octets :=
    match text.dropWhile isBlankOctet with
    | 0x2B :: rest => rest
    | rest => rest
  let a := leadingDecimal (unsign a)
  let b := leadingDecimal (unsign b)
  match a.isNumber, b.isNumber with
  | false, false => .eq
  | false, true => .lt
  | true, false => .gt
  | true, true =>
    let x := leadingExponent a.rest - a.places
    let y := leadingExponent b.rest - b.places
    compare (a.units * 10 ^ (x - y).toNat) (b.units * 10 ^ (y - x).toNat)

/-- The names of months. -/
def monthStarts : List String :=
  ["JAN", "FEB", "MAR", "APR", "MAY", "JUN", "JUL", "AUG", "SEP", "OCT", "NOV", "DEC"]

/-- A letter as a capital. -/
def capitalOctet (octet : UInt8) : UInt8 :=
  if 0x61 ≤ octet ∧ octet ≤ 0x7A then octet - 0x20 else octet

/-- The number of the month that a text starts with; zero if it starts with none. -/
def monthRank (text : Octets) : Nat :=
  let start := ((text.dropWhile isBlankOctet).take 3).map capitalOctet
  match (monthStarts.map Utf8.ofString).idxOf? start with
  | some i => i + 1
  | none => 0

/-- The rank of an octet within the parts of a version that are no digits. -/
def versionRank : Option UInt8 → Int
  | none => -1
  | some octet =>
    if octet = 0x7E then -2
    else if (0x41 ≤ octet && octet ≤ 0x5A) || (0x61 ≤ octet && octet ≤ 0x7A) then octet.toNat
    else if isDigitOctet octet then -1
    else octet.toNat + 256

/-- The order of versions: parts without digits are compared by octets, and digits as numbers. -/
def compareVersions : (fuel : Nat) → Octets → Octets → Ordering
  | 0, _, _ => .eq
  | fuel + 1, a, b =>
    if a.isEmpty ∧ b.isEmpty then .eq
    else
      let isPlain (text : Octets) : Bool := (text.head?.map fun o => !isDigitOctet o).getD false
      if isPlain a ∨ isPlain b then
        let rank (text : Octets) : Int := versionRank text.head?
        match compare (rank a) (rank b) with
        | .eq =>
          compareVersions fuel (if isPlain a then a.drop 1 else a)
            (if isPlain b then b.drop 1 else b)
        | other => other
      else
        let digits (text : Octets) : Octets := text.takeWhile isDigitOctet
        match compare (digitsValue (digits a)) (digitsValue (digits b)) with
        | .eq => compareVersions fuel (a.drop (digits a).length) (b.drop (digits b).length)
        | other => other

/-- A name of a file without its endings, which start with a dot and a letter. -/
def withoutEndings (text : Octets) : Octets :=
  let isLetter (octet : UInt8) : Bool :=
    (0x41 ≤ octet && octet ≤ 0x5A) || (0x61 ≤ octet && octet ≤ 0x7A) || octet == 0x7E
  let isEnding (ending : Octets) : Bool :=
    match ending with
    | 0x2E :: c :: rest =>
      isLetter c && rest.all fun octet => isLetter octet || isDigitOctet octet || octet == 0x2E
    | _ => false
  let spots := (List.range text.length).filter fun i =>
    i > 0 && isEnding (text.drop i)
  match spots.head? with
  | some i => text.take i
  | none => text

/-- The order of names of files by their versions. -/
def compareFileVersions (a b : Octets) : Ordering :=
  let fuel := a.length + b.length + 2
  let hidden (text : Octets) : Bool := text.head? == some 0x2E
  if a = b then .eq
  else if a.isEmpty then .lt
  else if b.isEmpty then .gt
  else if hidden a && !hidden b then .lt
  else if !hidden a && hidden b then .gt
  else
    match compareVersions fuel (withoutEndings a) (withoutEndings b) with
    | .eq => compareVersions fuel a b
    | other => other

/-! ## Keys -/

/-- The end of a key. -/
structure KeyEnd where
  /-- The number of fields before its field. -/
  field : Nat
  /-- The number of characters of its field that belong to the key; zero stands for all. -/
  chars : Nat
  /-- Whether blanks before them are left out of account. -/
  skipsBlanks : Bool

/-- A key: a part of a line and the order that counts for it. -/
structure SortKey where
  /-- The number of fields before it. -/
  field : Nat := 0
  /-- The number of characters of its first field before it. -/
  chars : Nat := 0
  /-- Whether blanks before them are left out of account. -/
  skipsBlanks : Bool := false
  /-- Its end, if that is not the end of the line. -/
  stop : Option KeyEnd := none
  /-- The letters of its order. -/
  letters : List Char := []

/-- A text behind so many fields. -/
def behindFields (separator : Option UInt8) : (count : Nat) → (keepsLast : Bool) → Octets → Octets
  | 0, _, text => text
  | count + 1, keepsLast, text =>
    match separator with
    | some octet =>
      let behind := text.dropWhile (· ≠ octet)
      if count = 0 ∧ keepsLast then behind
        else behindFields separator count keepsLast (behind.drop 1)
    | none =>
      behindFields separator count keepsLast
        ((text.dropWhile isBlankOctet).dropWhile fun octet => !isBlankOctet octet)

/-- The part of a line that a key is. -/
def SortKey.part (separator : Option UInt8) (key : SortKey) (line : Octets) : Octets :=
  let start := behindFields separator key.field false line
  let start := if key.skipsBlanks then start.dropWhile isBlankOctet else start
  let start := start.drop key.chars
  match key.stop with
  | none => start
  | some stop =>
    let behind :=
      if stop.chars = 0 then behindFields separator (stop.field + 1) true line
      else
        let behind := behindFields separator stop.field false line
        let behind := if stop.skipsBlanks then behind.dropWhile isBlankOctet else behind
        behind.drop stop.chars
    start.take (start.length - behind.length)

/-- The order of two parts by the letters of a key. -/
def compareBy (letters : List Char) (a b : Octets) : Ordering :=
  let has (c : Char) : Bool := letters.contains c
  let kept (octet : UInt8) : Bool :=
    if has 'd' then
      isBlankOctet octet || isDigitOctet octet || (0x41 ≤ octet && octet ≤ 0x5A) ||
        (0x61 ≤ octet && octet ≤ 0x7A)
    else if has 'i' then 0x20 ≤ octet && octet ≤ 0x7E
    else true
  let plain (text : Octets) : Octets :=
    let text := text.filter kept
    if has 'f' then text.map capitalOctet else text
  let found :=
    if has 'n' then compareDecimals (leadingDecimal a) (leadingDecimal b)
    else if has 'g' then compareGeneral a b
    else if has 'h' then compareShort a b
    else if has 'M' then compare (monthRank a) (monthRank b)
    else if has 'V' then compareFileVersions a b
    else compareOctets (plain a) (plain b)
  if has 'r' then found.swap else found

/-- How lines are sorted. -/
structure Sorting where
  /-- The keys, the most important one first. -/
  keys : List SortKey
  /-- The letters that count where a key has none. -/
  letters : List Char
  /-- The octet between fields. -/
  separator : Option UInt8 := none
  /-- Whether lines whose keys are the same stay in their order. -/
  stable : Bool := false

/-- The letters that count for a key. -/
def Sorting.lettersOf (sorting : Sorting) (key : SortKey) : List Char :=
  if key.letters.isEmpty ∧ !key.skipsBlanks then sorting.letters else key.letters

/-- The order of two lines by their keys. -/
def Sorting.compareKeys (sorting : Sorting) (a b : Octets) : Ordering :=
  if sorting.keys.isEmpty then
    let trim (text : Octets) : Octets :=
      if sorting.letters.contains 'b' then text.dropWhile isBlankOctet else text
    compareBy sorting.letters (trim a) (trim b)
  else
    sorting.keys.foldl
      (fun found key =>
        match found with
        | .eq =>
          let inherits := key.letters.isEmpty && !key.skipsBlanks
          let key := if inherits ∧ sorting.letters.contains 'b' then
            { key with
              skipsBlanks := true,
              stop := key.stop.map fun stop => { stop with skipsBlanks := true } }
            else key
          let letters := if inherits then sorting.letters else key.letters
          compareBy letters (key.part sorting.separator a) (key.part sorting.separator b)
        | other => other)
      .eq

/-- The order of two lines. -/
def Sorting.compareLines (sorting : Sorting) (a b : Octets) : Ordering :=
  match sorting.compareKeys a b with
  | .eq =>
    if sorting.stable then .eq
    else if sorting.letters.contains 'r' then (compareOctets a b).swap
    else compareOctets a b
  | other => other

/-- Sorts lines. -/
def Sorting.sort (sorting : Sorting) (lines : List Octets) : List Octets :=
  lines.mergeSort fun a b => sorting.compareLines a b != .gt

/-! ## Reading keys -/

/-- Reads a number of a key. -/
def takeKeyNumber (what : String) (text : List Char) : Except String (Nat × List Char) :=
  let digits := text.takeWhile isDigit
  if digits.isEmpty then
    .error (what ++ ": invalid count at start of " ++ quotedArgument (String.ofList text))
  else .ok (decimal digits, text.drop digits.length)

/-- The letters that a key may have. -/
def keyLetters : List Char := "bdfghiMnRrV".toList

/-- Reads a key. -/
def readKey (word : String) : Except String SortKey := do
  let zero (what : String) : Except String SortKey :=
    .error (what ++ ": invalid field specification " ++ quotedArgument word)
  let (field, rest) ← takeKeyNumber "invalid number at field start" word.toList
  if field = 0 then return ← zero "field number is zero"
  let (chars, rest) ←
    match rest with
    | '.' :: rest => takeKeyNumber "invalid number after '.'" rest
    | rest => .ok (1, rest)
  if chars = 0 then return ← zero "character offset is zero"
  let letters := rest.takeWhile keyLetters.contains
  let key : SortKey :=
    { field := field - 1, chars := chars - 1, skipsBlanks := letters.contains 'b'
      letters := letters.filter (· ≠ 'b') }
  match rest.drop letters.length with
  | [] => return key
  | ',' :: rest =>
    let (field, rest) ← takeKeyNumber "invalid number after ','" rest
    if field = 0 then return ← zero "field number is zero"
    let (chars, rest) ←
      match rest with
      | '.' :: rest => takeKeyNumber "invalid number after '.'" rest
      | rest => .ok (0, rest)
    let more := rest.takeWhile keyLetters.contains
    if (rest.drop more.length).isEmpty then
      return { key with
        letters := key.letters ++ more.filter (· ≠ 'b')
        stop := some ⟨field - 1, chars, more.contains 'b'⟩ }
    else zero "stray character in field spec"
  | _ => zero "stray character in field spec"

/-! ## Sorting -/

/-- The first line that may not stand behind the one before it, with its number. -/
def firstDisorder? (follows : Octets → Octets → Bool) : (number : Nat) → List Octets →
    Option (Nat × Octets)
  | number, first :: second :: rest =>
    if follows first second then firstDisorder? follows (number + 1) (second :: rest)
    else some (number + 1, second)
  | _, _ => none

/-- Octets cut at each of some octet, without what follows the last one if that is empty. -/
def recordsOf (ending : UInt8) (octets : Octets) : List Octets :=
  if ending = 0x0A then linesOf octets
  else
    let swap (octet : UInt8) : UInt8 :=
      if octet = ending then 0x0A else if octet = 0x0A then ending else octet
    (linesOf (octets.map swap)).map fun line => line.map swap

/-- Lines of which only the first of those with the same keys is kept. -/
def withoutEqual (same : Octets → Octets → Bool) : List Octets → List Octets
  | [] => []
  | [line] => [line]
  | first :: second :: rest =>
    if same first second then withoutEqual same (first :: rest)
    else first :: withoutEqual same (second :: rest)
termination_by lines => lines.length

/-- What the letters of a command line say of an order. -/
def orderLetters (line : CommandLine) : List Char :=
  line.letters.filter keyLetters.contains

/-- Letters that exclude each other, if there are any. -/
def clashOf? (letters : List Char) : Option String :=
  let kinds := ['d', 'g', 'h', 'i', 'M', 'n', 'R', 'V'].filter letters.contains
  let kinds := if kinds.contains 'd' then kinds.filter (· ≠ 'i') else kinds
  let numeric := kinds.filter fun c => c ≠ 'R' ∧ c ≠ 'd' ∧ c ≠ 'i' ∨ c = 'd' ∨ c = 'i'
  if numeric.length > 1 then some (String.ofList numeric) else none

/-- The octet that a word for a separator is. -/
def separatorOf (word : String) : Except String UInt8 :=
  match Utf8.ofString word with
  | [] => .error "empty tab"
  | [octet] => .ok octet
  | octets =>
    if octets = Utf8.ofString "\\0" then .ok 0
    else .error ("multi-character tab " ++ quotedArgument word)

/-- Sorts lines, or says whether they are sorted. -/
def sort : Utility := fun task =>
  let rules : OptionRules :=
    { flags := "bdfghiMnRrVcCmsuz", takers := "koStTBP"
      names := [("ignore-leading-blanks", 'b'), ("dictionary-order", 'd'), ("ignore-case", 'f'),
        ("general-numeric-sort", 'g'), ("human-numeric-sort", 'h'), ("ignore-nonprinting", 'i'),
        ("month-sort", 'M'), ("numeric-sort", 'n'), ("random-sort", 'R'), ("reverse", 'r'),
        ("version-sort", 'V'), ("check", 'c'), ("merge", 'm'), ("stable", 's'), ("unique", 'u'),
        ("zero-terminated", 'z'), ("key", 'k'), ("output", 'o'), ("field-separator", 't'),
        ("parallel", 'P'), ("buffer-size", 'S'), ("temporary-directory", 'T'),
        ("batch-size", 'B')] }
  let body (line : CommandLine) : Report :=
    let settings : Except String Sorting := do
      let keys ← (line.allValues 'k').mapM readKey
      let separator ←
        match line.value? 't' with
        | none => .ok none
        | some word => (separatorOf word).map some
      let letters := orderLetters line
      match ((letters :: keys.map SortKey.letters).filterMap clashOf?).head? with
      | some clash => .error ("options '-" ++ clash ++ "' are incompatible")
      | none =>
        .ok ⟨keys, letters, separator, line.has 's' || line.has 'u'⟩
    match settings with
    | .error message => task.fails message 2
    | .ok sorting =>
      let ending : UInt8 := if line.has 'z' then 0 else 0x0A
      let words := if line.operands.isEmpty then ["-"] else line.operands
      let checks := line.has 'c' || line.has 'C'
      match words.drop 1, checks with
      | extra :: _, true =>
        task.fails ("extra operand " ++ quotedArgument extra ++ " not allowed with -c") 2
      | _, _ =>
        let unreadable := words.findSome? fun word =>
          match task.octetsOf word with
          | .ok _ => none
          | .error error => some (word, error)
        match unreadable with
        | some (word, error) =>
          let attempt := if error = .isDirectory then "read failed: "
            else if checks then "open failed: " else "cannot read: "
          task.fails (attempt ++ plainWording word error) 2
        | none =>
          let inputs := words.map fun word =>
            recordsOf ending (((task.octetsOf word).toOption).getD [])
          let lines := inputs.flatten
          let read := words.any isInputName
          let idle := if read then { task.idle with unread := [] } else task.idle
          if checks then
            let follows (a b : Octets) : Bool :=
              let found := if line.has 'u' then sorting.compareKeys a b
                else sorting.compareLines a b
              found == .lt || (found == .eq && !line.has 'u')
            match firstDisorder? follows 1 lines with
            | none => idle
            | some (number, text) =>
              if line.has 'C' then { idle with status := 1 }
              else
                idle.complains (task.name ++ ": " ++ quoted (words.headD "-") ++ ":" ++
                  toString number ++ ": disorder: " ++ String.ofList (Utf8.decodeLossy text))
          else
            let sorted := sorting.sort lines
            let sorted := if line.has 'u' then
                withoutEqual (fun a b => sorting.compareKeys a b == .eq) sorted
              else sorted
            let output := sorted.flatMap (· ++ [ending])
            match line.value? 'o' with
            | none => idle.adds output
            | some path =>
              match Disk.write path output task.disk with
              | (.ok (), disk) => { idle with disk := disk }
              | (.error error, _) =>
                task.fails ("open failed: " ++ quoted path ++ ": " ++ error.reason) 2
  task.withRules rules body 2

/-! ## Repeated lines -/

/-- Runs of lines that are the same, each with all of them. -/
def runsOf (same : Octets → Octets → Bool) (lines : List Octets) : List (List Octets) :=
  lines.foldr
    (fun line runs =>
      match runs with
      | (other :: run) :: rest =>
        if same line other then (line :: other :: run) :: rest else [line] :: runs
      | runs => [line] :: runs)
    []

/-- Passes its input on without lines that repeat the one before. -/
def uniq : Utility := fun task =>
  let rules : OptionRules :=
    { flags := "cduiDz", takers := "fsw", optional := "g"
      names := [("count", 'c'), ("repeated", 'd'), ("unique", 'u'), ("ignore-case", 'i'),
        ("all-repeated", 'D'), ("skip-fields", 'f'), ("skip-chars", 's'), ("check-chars", 'w'),
        ("zero-terminated", 'z'), ("group", 'g')] }
  task.withRules rules fun line =>
    let number (letter : Char) : Option Nat :=
      (line.value? letter).map fun word => decimal word.toList
    let key (text : Octets) : Octets :=
      let text := behindFields none ((number 'f').getD 0) false text
      let text := text.drop ((number 's').getD 0)
      let text := ((number 'w').map text.take).getD text
      if line.has 'i' then text.map capitalOctet else text
    let bad := ['f', 's', 'w'].findSome? fun letter =>
      (line.value? letter).bind fun word =>
        if word ≠ "" ∧ word.toList.all isDigit then none
        else
          let what := if letter = 'f' then "fields to skip"
            else if letter = 's' then "bytes to skip"
            else "bytes to compare"
          some (word ++ ": invalid number of " ++ what)
    match bad, line.operands.drop 2 with
    | some message, _ => task.fails message
    | none, extra :: _ => task.misused ("extra operand " ++ quotedArgument extra)
    | none, [] =>
      let ending : UInt8 := if line.has 'z' then 0 else 0x0A
      let counted (_ : String) (octets : Octets) (report : Report) : Report :=
        let runs := runsOf (fun a b => key a == key b) (recordsOf ending octets)
        let shown (run : List Octets) : Octets :=
          let repeated := run.length > 1
          let picked :=
            if line.has 'D' then (if repeated then run else [])
            else if line.has 'd' ∧ line.has 'u' then []
            else if line.has 'd' then (if repeated then run.take 1 else [])
            else if line.has 'u' then (if repeated then [] else run.take 1)
            else if line.has 'g' then run
            else run.take 1
          let count := toString run.length
          let lead := if line.has 'c' then
              String.ofList (List.replicate (7 - count.length) ' ') ++ count ++ " "
            else ""
          picked.flatMap fun text => Utf8.ofString lead ++ text ++ [ending]
        if line.has 'g' then report.adds (((runs.map shown).intersperse [ending]).flatten)
        else report.adds (runs.flatMap shown)
      let report := task.overInputs (line.operands.take 1) counted (readingWording plainWording)
      match line.operands with
      | [_, path] =>
        if path = "-" ∨ report.status ≠ 0 then report
        else
          (report.withOutput []).attempts (task.name ++ ": " ++ quoted path)
            (Disk.write path report.output)
      | _ => report

/-! ## Two sorted files -/

/-- The lines of two sorted lists: each with whether it is in the first and in the second one. -/
def mergedLines (before : Octets → Octets → Ordering) : (fuel : Nat) → List Octets →
    List Octets → List (Octets × Bool × Bool)
  | 0, _, _ => []
  | _, as, [] => as.map fun a => (a, true, false)
  | _, [], bs => bs.map fun b => (b, false, true)
  | fuel + 1, a :: as, b :: bs =>
    match before a b with
    | .lt => (a, true, false) :: mergedLines before fuel as (b :: bs)
    | .gt => (b, false, true) :: mergedLines before fuel (a :: as) bs
    | .eq => (a, true, true) :: mergedLines before fuel as bs

/-- The two inputs of a program that compares them. -/
def twoInputs (task : Task) (line : CommandLine)
    (body : String → String → Octets → Octets → Report) :
    Report :=
  match line.operands with
  | [] => task.misused "missing operand"
  | [word] => task.misused ("missing operand after " ++ quotedArgument word)
  | [first, second] =>
    match task.octetsOf first, task.octetsOf second with
    | .ok a, .ok b =>
      let report := body first second a b
      if [first, second].any isInputName then { report with unread := [] } else report
    | .error error, _ => task.fails (plainWording first error)
    | _, .error error => task.fails (plainWording second error)
  | _ :: _ :: extra :: _ => task.misused ("extra operand " ++ quotedArgument extra)

/-- Shows which lines of two sorted files are in one of them and which are in both. -/
def comm : Utility := fun task =>
  let rules : OptionRules :=
    { flags := "123zcn", takers := "o"
      names := [("check-order", 'c'), ("nocheck-order", 'n'), ("output-delimiter", 'o'),
        ("total", 't'), ("zero-terminated", 'z')] }
  task.withRules rules fun line =>
    twoInputs task line fun _ _ a b =>
      let as := linesOf a
      let bs := linesOf b
      let gap := Utf8.ofString ((line.value? 'o').getD "\t")
      let rows := mergedLines compareOctets (as.length + bs.length + 1) as bs
      let row (found : Octets × Bool × Bool) : Octets :=
        let (text, inFirst, inSecond) := found
        let column := if inFirst ∧ inSecond then '3' else if inFirst then '1' else '2'
        if line.has column then []
        else
          let before :=
            (if column = '1' then [] else if column = '2' then ['1'] else ['1', '2']).filter
            fun c => !line.has c
          (before.flatMap fun _ => gap) ++ text ++ [0x0A]
      let report := task.done (rows.flatMap row)
      let follows (x y : Octets) : Bool := compareOctets x y != .gt
      let disorder (lines : List Octets) : Bool := (firstDisorder? follows 1 lines).isSome
      let isMixed := rows.any fun (_, inFirst, inSecond) => !(inFirst && inSecond)
      let faults := (if disorder as then ["1"] else []) ++ (if disorder bs then ["2"] else [])
      if line.has 'n' ∨ faults.isEmpty ∨ !(isMixed ∨ line.has 'c') then report
      else
        let report := faults.foldl
          (fun (report : Report) number =>
            report.complains (task.name ++ ": file " ++ number ++ " is not in sorted order"))
          report
        if line.has 'c' then report
        else report.complains (task.name ++ ": input is not in sorted order")

/-- The fields of a line. -/
def fieldsIn (separator : Option UInt8) (text : Octets) : List Octets :=
  match separator with
  | none =>
    (recordsOf 0x20 (text.map fun octet => if isBlankOctet octet then 0x20 else octet)).filter
      (!·.isEmpty)
  | some octet =>
    if text.isEmpty then []
    else
      let parts := recordsOf octet text
      if text.getLast? = some octet then parts ++ [[]] else parts

/-- How lines of two files are joined. -/
structure Joining where
  /-- The field of each file that lines are joined by, from one on. -/
  fields : Nat × Nat := (1, 1)
  /-- The octet between fields. -/
  separator : Option UInt8 := none
  /-- Whether small and capital letters are the same. -/
  fold : Bool := false
  /-- The text in the place of fields that are missing. -/
  filler : Octets := []
  /-- The fields of the output: the number of a file, zero for the key, and the number of a field.
  -/
  columns : List (Nat × Nat) := []

/-- The field that lines are joined by. -/
def Joining.key (joining : Joining) (field : Nat) (fields : List Octets) : Octets :=
  let key := fields.getD (field - 1) []
  if joining.fold then key.map capitalOctet else key

/-- A joined line. -/
def Joining.row (joining : Joining) (key : Octets) (first second : Option (List Octets)) : Octets :=
  let gap := [joining.separator.getD 0x20]
  let others (field : Nat) (fields : Option (List Octets)) : List Octets :=
    ((fields.getD []).zipIdx.filter fun (_, i) => i + 1 ≠ field).map Prod.fst
  let filled (text : Option Octets) : Octets :=
    match text with
    | some [] => joining.filler
    | some text => text
    | none => joining.filler
  let parts :=
    if joining.columns.isEmpty then
      key :: others joining.fields.1 first ++ others joining.fields.2 second
    else
      joining.columns.map fun (file, field) =>
        if file = 0 then key
        else filled ((if file = 1 then first else second).bind fun fields => fields[field - 1]?)
  (parts.intersperse gap).flatten ++ [0x0A]

/-- Joins the lines of two files whose keys are the same. `lone` says for which file the lines
without a partner are shown too, and `pairs` whether those with one are. -/
def Joining.join (joining : Joining) (lone : Nat → Bool) (pairs : Bool) :
    (fuel : Nat) → List (List Octets) → List (List Octets) → Octets
  | 0, _, _ => []
  | _, [], [] => []
  | fuel + 1, a :: as, [] =>
    (if lone 1 then joining.row (a.getD (joining.fields.1 - 1) []) (some a) none else []) ++
      joining.join lone pairs fuel as []
  | fuel + 1, [], b :: bs =>
    (if lone 2 then joining.row (b.getD (joining.fields.2 - 1) []) none (some b) else []) ++
      joining.join lone pairs fuel [] bs
  | fuel + 1, a :: as, b :: bs =>
    let x := joining.key joining.fields.1 a
    let y := joining.key joining.fields.2 b
    match compareOctets x y with
    | .lt =>
      (if lone 1 then joining.row (a.getD (joining.fields.1 - 1) []) (some a) none else []) ++
        joining.join lone pairs fuel as (b :: bs)
    | .gt =>
      (if lone 2 then joining.row (b.getD (joining.fields.2 - 1) []) none (some b) else []) ++
        joining.join lone pairs fuel (a :: as) bs
    | .eq =>
      let firsts := (a :: as).takeWhile fun fields => joining.key joining.fields.1 fields == x
      let seconds := (b :: bs).takeWhile fun fields => joining.key joining.fields.2 fields == x
      (if pairs then firsts.flatMap fun first => seconds.flatMap fun second =>
        joining.row (first.getD (joining.fields.1 - 1) []) (some first) (some second) else []) ++
        joining.join lone pairs fuel ((a :: as).drop firsts.length) ((b :: bs).drop seconds.length)

/-- Joins the lines of two sorted files. -/
def join : Utility := fun task =>
  let rules : OptionRules :=
    { flags := "iz", takers := "12jtaveo"
      names := [("ignore-case", 'i'), ("check-order", 'z'), ("nocheck-order", 'z'),
        ("header", 'z')] }
  task.withRules rules fun line =>
    let field (letter : Char) : Nat :=
      (((line.value? letter).or (line.value? 'j')).map fun word => decimal word.toList).getD 1
    let columns := (line.allValues 'o').flatMap fun word =>
      ((Text.splitAtEach ',' word.toList).flatMap (Text.splitAtEach ' ')).filterMap fun part =>
        match Text.splitAtEach '.' part with
        | [file, field] => some (decimal file, decimal field)
        | [['0']] => some (0, 0)
        | _ => none
    let joining : Joining :=
      { fields := (field '1', field '2')
        separator := (line.value? 't').bind fun word => (Utf8.ofString word).head?
        fold := line.has 'i', filler := Utf8.ofString ((line.value? 'e').getD ""),
        columns := columns }
    let lone (file : Nat) : Bool :=
      (line.allValues 'a' ++ line.allValues 'v').contains (toString file)
    twoInputs task line fun _ _ a b =>
      let rows (octets : Octets) : List (List Octets) :=
        (linesOf octets).map (fieldsIn joining.separator)
      let fuel := 2 * (a.length + b.length) + 2
      task.done (joining.join lone (!line.has 'v') fuel (rows a) (rows b))

end HistoryExpansion.Shell.Utility
