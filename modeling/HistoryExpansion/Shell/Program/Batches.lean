import HistoryExpansion.Shell.Escape
import HistoryExpansion.Shell.Program.Start

/-!
# Calls with words of the input

A program is run again and again, each time with some more words of the input as its arguments, or
with one of them in the place of a mark in its arguments.
-/

namespace HistoryExpansion.Shell

namespace Batches

/-! ## Words of the input -/

/-- A part of the input. -/
inductive Piece where
  /-- A word. -/
  | word (octets : Octets)
  /-- The end of a line of words. With the flag the line counts. -/
  | lineEnd (counts : Bool)
  deriving DecidableEq, Repr

/-- Why the input cannot be read on. -/
inductive Fault where
  /-- A quote was opened and not closed. -/
  | unmatched (double : Bool)
  /-- A word is longer than all arguments together may be. -/
  | tooLong
  deriving DecidableEq, Repr

/-- The wording of a fault. -/
def Fault.message : Fault → String
  | unmatched double =>
    "unmatched " ++ (if double then "double" else "single") ++
      " quote; by default quotes are special to xargs unless you use the -0 option"
  | tooLong => "argument line too long"

/-- Where in a word a reader is. -/
inductive Place where
  /-- Before a word. -/
  | before
  /-- In a word. -/
  | within
  /-- In quotes of a kind. -/
  | quote (sign : UInt8)
  /-- Behind a backslash. -/
  | escape
  deriving DecidableEq, Repr

/-- A reader of words. -/
structure Reading where
  /-- Where it is. -/
  place : Place := .before
  /-- The word so far, newest octet first. -/
  word : Octets := []
  /-- Whether quotes were seen on this line. -/
  quoted : Bool := false
  /-- Whether no word of this line was read before. -/
  first : Bool := true
  /-- The octet before the next one. -/
  previous : Option UInt8 := none
  /-- The number of octets that the word may still have. -/
  room : Nat

/-- Whether an octet is a blank. -/
def isBlankOctet (octet : UInt8) : Bool :=
  octet == 0x20 || octet == 0x09

/-- Whether an octet stands before words without being a part of them. -/
def isSpaceOctet (octet : UInt8) : Bool :=
  octet == 0x20 || (0x09 ≤ octet && octet ≤ 0x0D)

/-- How words are read. -/
structure Rules where
  /-- Whether a word is a whole line. -/
  wholeLines : Bool
  /-- The word at which reading ends. -/
  last : Option Octets
  /-- The most octets of a word. -/
  most : Nat

/-- Reads the words of an input in which blanks stand between words. -/
def pieces (rules : Rules) : Octets → Reading → List Piece × Option Fault
  | [], reading =>
    let word := reading.word.reverse
    if word.isEmpty then ([], none)
    else
      match reading.place with
      | .quote sign => ([], some (.unmatched (sign == 0x22)))
      | _ =>
        if reading.first ∧ rules.last = some word then ([], none) else ([.word word], none)
  | octet :: rest, reading =>
    let seen : Reading := { reading with previous := some octet }
    let add (place : Place) : List Piece × Option Fault :=
      if reading.room = 0 then ([], some .tooLong)
      else
        pieces rules rest
          { seen with word := octet :: reading.word, place := place, room := reading.room - 1 }
    match reading.place with
    | .quote sign =>
      if octet = 0x0A then ([], some (.unmatched (sign == 0x22)))
      else if octet = sign then pieces rules rest { seen with place := .within }
      else add reading.place
    | .escape => add .within
    | place =>
      if place = .before ∧ isSpaceOctet octet then pieces rules rest seen
      else if octet = 0x0A then
        let word := reading.word.reverse
        if word.isEmpty ∧ !reading.quoted then pieces rules rest { seen with place := .before }
        else if rules.last = some word then ([], none)
        else
          let (more, fault) := pieces rules rest { room := rules.most }
          let counts := !(reading.previous.map isBlankOctet).getD false
          (.word word :: .lineEnd counts :: more, fault)
      else if isBlankOctet octet ∧ !rules.wholeLines then
        let word := reading.word.reverse
        if rules.last = some word then ([], none)
        else
          let (more, fault) :=
            pieces rules rest
              { seen with word := [], place := .before, first := false, room := rules.most }
          (.word word :: more, fault)
      else if octet = 0x5C then pieces rules rest { seen with place := .escape }
      else if octet = 0x22 ∨ octet = 0x27 then
        pieces rules rest { seen with place := .quote octet, quoted := true }
      else add .within

/-- Reads the words of an input in which an octet stands behind each of them. -/
def piecesBehind (most : Nat) (delimiter : UInt8) : Octets → (word : Octets) → (room : Nat) →
    List Piece × Option Fault
  | [], word, _ => (if word.isEmpty then [] else [.word word.reverse, .lineEnd true], none)
  | octet :: rest, word, room =>
    if octet = delimiter then
      let (more, fault) := piecesBehind most delimiter rest [] most
      (.word word.reverse :: .lineEnd true :: more, fault)
    else
      match room with
      | 0 => ([], some .tooLong)
      | room + 1 => piecesBehind most delimiter rest (octet :: word) room

/-! ## Options -/

/-- How words are spread over calls. -/
structure Plan where
  /-- The mark that a word stands in the place of. -/
  mark : Option String := none
  /-- The most lines of a call. -/
  lines : Option Nat := none
  /-- The most words of a call. -/
  words : Option Nat := none
  /-- The most octets of a call. -/
  most : Nat := 131072
  /-- Whether it is an error if a call would be too long. -/
  whole : Bool := false
  /-- The octet behind each word, if it is not blanks that stand between them. -/
  delimiter : Option UInt8 := none
  /-- The word at which reading ends. -/
  last : Option String := none
  /-- The file that the words are read from. -/
  file : Option String := none
  /-- Whether there is no call without words. -/
  needsWords : Bool := false
  /-- Whether calls are shown. -/
  shows : Bool := false
  /-- Whether calls are asked about. -/
  asks : Bool := false
  /-- What is said about options that do not fit together. -/
  warnings : List String := []

/-- What is wrong with the value of an option. -/
inductive ValueFault where
  /-- It is no number. -/
  | notNumber (letter : Char) (value : String)
  /-- It is below the least one. -/
  | tooSmall (letter : Char) (value : String) (least : Nat)
  /-- It is more than one character. -/
  | badDelimiter (value : String)
  /-- A backslash stands before a character that stands for no other. -/
  | badEscape (value : String)
  deriving DecidableEq, Repr

/-- The wording of a number that is too small. -/
def tooSmallMessage (letter : Char) (value : String) (least : Nat) : String :=
  "value " ++ value ++ " for -" ++ String.ofList [letter] ++ " option should be >= " ++
    toString least

/-- The wording of a fault, with the end that tells where to learn more. -/
def ValueFault.message (name : String) : ValueFault → String
  | notNumber letter value =>
    name ++ ": invalid number \"" ++ value ++ "\" for -" ++ String.ofList [letter] ++ " option\n" ++
      adviceFor name
  | tooSmall letter value least =>
    name ++ ": " ++ tooSmallMessage letter value least ++ "\n" ++ adviceFor name
  | badDelimiter value =>
    name ++ ": Invalid input delimiter specification " ++ value ++
      ": the delimiter must be either a single character or an escape sequence starting with \\.\n"
  | badEscape value =>
    name ++ ": Invalid escape sequence " ++ value ++ " in input delimiter specification.\n"

/-- The options of the program. -/
def rules : OptionRules where
  flags := "0prtxo"
  takers := "aEILnsPdV"
  optional := "eil"
  names :=
    [("null", '0'), ("arg-file", 'a'), ("delimiter", 'd'), ("eof", 'e'), ("replace", 'i'),
      ("max-lines", 'l'), ("max-args", 'n'), ("open-tty", 'o'), ("interactive", 'p'),
      ("no-run-if-empty", 'r'), ("max-chars", 's'), ("verbose", 't'), ("exit", 'x'),
      ("max-procs", 'P'), ("process-slot-var", 'V')]
  mixed := false

/-- The value of an option that is a number, a least one or more. -/
def numberOf (letter : Char) (value : String) (least : Nat) : Except ValueFault Nat :=
  let chars := value.toList
  let (negative, digits) : Bool × List Char :=
    match chars with
    | '-' :: rest => (true, rest)
    | '+' :: rest => (false, rest)
    | rest => (false, rest)
  if digits.isEmpty ∨ !digits.all isDigit then .error (.notNumber letter value)
  else if (negative ∧ decimal digits > 0) ∨ decimal digits < least then
    .error (.tooSmall letter value least)
  else .ok (decimal digits)

/-- The octet that a value of an option stands for. -/
def delimiterOf (value : String) : Except ValueFault UInt8 :=
  match Utf8.ofString value with
  | [octet] => .ok octet
  | 0x5C :: letter :: rest =>
    let digits := (letter :: rest).map fun octet => Char.ofNat octet.toNat
    let known : Option UInt8 :=
      if rest.isEmpty then
        (("abfnrtv\\".toList.map fun c => c.toNat.toUInt8).zip
          ([0x07, 0x08, 0x0C, 0x0A, 0x0D, 0x09, 0x0B, 0x5C] : Octets)).lookup letter
      else none
    match known with
    | some octet => .ok octet
    | none =>
      match digits with
      | 'x' :: digits => numeral 16 digits
      | digits => numeral 8 digits
  | _ => .error (.badDelimiter value)
where
  /-- The octet of a numeral. -/
  numeral (base : Nat) (digits : List Char) : Except ValueFault UInt8 :=
    match takeSomeDigits base digits.length 0 digits with
    | (octet, []) => .ok octet.toUInt8
    | _ => .error (.badEscape value)

/-- What is said about an option that another one makes void. -/
def exclusion (before now : String) : String :=
  "warning: options " ++ before ++ " and " ++ now ++
    " are mutually exclusive, ignoring previous " ++ before ++ " value"

/-- The plan without what another option makes void. -/
def Plan.without (plan : Plan) (now : String) (mark lines words : Bool) : Plan :=
  let warnings :=
    (if mark && plan.mark.isSome then [exclusion "--replace" now] else []) ++
      (if lines && plan.lines.isSome then [exclusion "--max-lines" now] else []) ++
      (if words && plan.words.isSome then [exclusion "--max-args" now] else [])
  { plan with
    mark := if mark then none else plan.mark
    lines := if lines then none else plan.lines
    words := if words then none else plan.words
    warnings := plan.warnings ++ warnings }

/-- The plan with one more option. -/
def Plan.take (line : CommandLine) (plan : Plan) (letter : Char) : Except ValueFault Plan :=
  let value := line.value? letter
  let text := value.getD ""
  match letter with
  | '0' => .ok { plan with delimiter := some 0 }
  | 'd' => do return { plan with delimiter := some (← delimiterOf text) }
  | 'a' => .ok { plan with file := some text }
  | 'E' => .ok { plan with last := if text = "" then none else some text }
  | 'e' => .ok { plan with last := if text = "" then none else some text }
  | 'I' => .ok { plan.without "--replace/-I/-i" false true true with mark := some text }
  | 'i' =>
    .ok { plan.without "--replace/-I/-i" false true true with mark := some (value.getD "\x7b\x7d") }
  | 'L' => do
    let count ← numberOf letter text 1
    return { plan.without "-L" true false true with lines := some count }
  | 'l' => do
    let count ← value.elim (.ok 1) fun text => numberOf letter text 1
    return { plan.without "--max-lines/-l" true false true with lines := some count }
  | 'n' => do
    let count ← numberOf letter text 1
    if count = 1 ∧ plan.mark.isSome then return plan
    return { plan.without "--max-args/-n" true true false with words := some count }
  | 's' =>
    match numberOf letter text 1 with
    | .error (.tooSmall letter value least) =>
      .ok { plan with
        most := least
        warnings := plan.warnings ++ [tooSmallMessage letter value least] }
    | .error fault => .error fault
    | .ok count => .ok { plan with most := min count 131072 }
  | 'P' => do
    let _ ← numberOf letter text 0
    return plan
  | 'r' => .ok { plan with needsWords := true }
  | 't' => .ok { plan with shows := true }
  | 'p' => .ok { plan with shows := true, asks := true }
  | 'x' => .ok { plan with whole := true }
  | _ => .ok plan

/-! ## Calls -/

/-- How the calls stand. -/
structure Progress where
  /-- The words of the next call, latest first. -/
  waiting : List Octets := []
  /-- The octets of the next call. -/
  length : Nat
  /-- The lines of the next call. -/
  lines : Nat := 0
  /-- Whether there was a call. -/
  called : Bool := false
  /-- Whether a call failed. -/
  failed : Bool := false

/-- What the calls need. -/
structure Calls where
  /-- What starts programs. -/
  launch : Launch
  /-- The name of this program. -/
  name : String
  /-- The plan. -/
  plan : Plan
  /-- The words that every call starts with. -/
  start : List String
  /-- The variables. -/
  environment : List (String × String)

/-- The octets that words take as arguments. -/
def argumentsLength (words : List String) : Nat :=
  sumOf (words.map fun word => word.utf8ByteSize + 1)

/-- Something that the calls do. It ends early with a status. -/
abbrev Step := ExceptT Nat (StateT Progress Effect)

/-- Says what is wrong. -/
def say (calls : Calls) (message : String) : Step Unit := do
  complainFor calls.name message

/-- Ends with a message and a status. -/
def stop {α : Type} (calls : Calls) (message : String) (status : Nat) : Step α := do
  say calls message
  throw status

/-- Starts a program. Gives its status, or the signal that ended it. -/
def launched (calls : Calls) (words : List String) :
    Effect (Except DiskError (Nat ⊕ Nat)) := do
  try
    let result ← calls.launch words calls.environment
    return result.map Sum.inl
  catch
    | .crashed signal => return .ok (.inr signal)
    | flow => throw flow

/-- Runs one call. Its input is empty unless the words come from a file. -/
def call (calls : Calls) (words : List String) : Step Unit := do
  modify fun progress => { progress with called := true }
  let shown := String.intercalate " " (words.map quotedIfUnsafe)
  if calls.plan.asks then
    let _ ← write 2 (Utf8.ofString shown)
    stop calls "failed to open /dev/tty for reading: No such device or address" 1
  if calls.plan.shows then
    let _ ← write 2 (Utf8.ofString (shown ++ "\n"))
  let before ← own
  if calls.plan.file.isNone then
    attach 0 (← openStream .void)
  let result ← launched calls words
  changeOwn fun _ => before
  let command := words.headD ""
  match result with
  | .ok (.inl 0) => return
  | .ok (.inl 255) => stop calls (command ++ ": exited with status 255; aborting") 124
  | .ok (.inl _) => modify fun progress => { progress with failed := true }
  | .ok (.inr signal) => stop calls (command ++ ": terminated by signal " ++ toString signal) 125
  | .error error => stop calls (command ++ ": " ++ error.reason) (statusOfError error)

/-- The text of a word, up to an octet that no argument can hold. -/
def textOfWord (word : Octets) : String :=
  String.ofList (Utf8.decodeLossy (word.takeWhile (· ≠ 0)))

/-- Runs a call with the words that wait for it. -/
def callWaiting (calls : Calls) : Step Unit := do
  let words := (← get).waiting.reverse.map textOfWord
  modify fun progress =>
    { progress with waiting := [], length := argumentsLength calls.start }
  call calls (calls.start ++ words)

/-- Lets a word wait for a call. A call is run first if it would be too much for it. -/
def addWord (calls : Calls) (word : Octets) : Step Unit := do
  let progress ← get
  if progress.length + word.length + 1 > calls.plan.most then
    if progress.waiting.isEmpty then
      stop calls "cannot fit single argument within argument list size limit" 1
    if calls.plan.whole ∧ (calls.plan.lines.isSome ∨ calls.plan.words.isSome) then
      stop calls "argument list too long" 1
    callWaiting calls
  if calls.plan.words = some (← get).waiting.length then callWaiting calls
  modify fun progress =>
    { progress with
      waiting := word :: progress.waiting
      length := progress.length + word.length + 1 }

/-- Puts a word in the place of a mark in all arguments, and runs the call. -/
def callMarked (calls : Calls) (mark : String) (word : Octets) : Step Unit := do
  let word := textOfWord word
  let words := calls.start.take 1 ++ (calls.start.drop 1).map (·.replace mark word)
  if mark = "" then stop calls "command too long" 1
  if argumentsLength words > calls.plan.most then stop calls "argument list too long" 1
  call calls words

/-- Does what is to be done with a part of the input. -/
def addPiece (calls : Calls) (piece : Piece) : Step Unit := do
  match piece, calls.plan.mark with
  | .word octets, some mark => callMarked calls mark octets
  | .word octets, none => addWord calls octets
  | .lineEnd counts, _ =>
    if counts then modify fun progress => { progress with lines := progress.lines + 1 }
    match calls.plan.lines with
    | some most =>
      if (← get).lines ≥ most then
        callWaiting calls
        modify fun progress => { progress with lines := 0 }
    | none => return

/-- Runs all calls and gives the status. -/
def callAll (calls : Calls) (input : List Piece × Option Fault) : Step Nat := do
  for piece in input.1 do addPiece calls piece
  match input.2 with
  | some fault =>
    if calls.plan.mark.isNone ∧ !(← get).waiting.isEmpty ∧ !calls.plan.whole then
      callWaiting calls
    stop calls fault.message 1
  | none => pure ()
  if calls.plan.mark.isNone then
    let progress ← get
    if !progress.waiting.isEmpty ∨ (!progress.called ∧ !calls.plan.needsWords) then
      callWaiting calls
  return if (← get).failed then 123 else 0

/-- The warning about octets that cannot be a part of an argument. -/
def zeroWarning : String :=
  "WARNING: a NUL character occurred in the input.  It cannot be passed through in the argument " ++
    "list.  Did you mean to use the --null option?"

end Batches

open Batches in
/-- Runs a program with words of the input as its arguments. -/
def runBatches : Runner := fun launch name arguments environment => do
  match Batches.rules.read (arguments.length + 1) arguments {} with
  | .error fault =>
    complainFor name fault.message
    writeText 2 (adviceFor name)
    return 1
  | .ok line =>
    match line.letters.foldlM (Plan.take line) {} with
    | .error fault =>
      writeText 2 (fault.message name)
      return 1
    | .ok plan =>
      for warning in plan.warnings do complainFor name warning
      let plan := { plan with whole := plan.whole || plan.mark.isSome || plan.lines.isSome }
      let start := if line.operands.isEmpty then ["echo"] else line.operands
      let first := argumentsLength (if plan.mark.isSome then start.take 1 else start)
      if first > plan.most then
        complainFor name "cannot fit single argument within argument list size limit"
        return 1
      let input ←
        match plan.file with
        | none =>
          let input ← remaining 0
          keepUnread 0 []
          pure (Except.ok input)
        | some path => pure ((← diskHere).read path)
      match input with
      | .error error =>
        complainFor name
          ("Cannot open input file '" ++ plan.file.getD "" ++ "': " ++ error.reason)
        return 1
      | .ok octets =>
        let most := plan.most - first - 1
        let input :=
          match plan.delimiter with
          | some delimiter => piecesBehind most delimiter octets [] most
          | none =>
            pieces ⟨plan.mark.isSome, plan.last.map Utf8.ofString, most⟩ octets { room := most }
        if plan.delimiter.isNone ∧ octets.contains 0 then complainFor name zeroWarning
        let calls : Calls := ⟨launch, name, plan, start, environment⟩
        let (result, _) ← (callAll calls input).run.run { length := first }
        match result with
        | .ok status => return status
        | .error status => return status

end HistoryExpansion.Shell
