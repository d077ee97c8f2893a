import HistoryExpansion.Shell.Regex.Reader
import HistoryExpansion.Shell.Utility.Grep
import HistoryExpansion.Shell.Utility.Order
import HistoryExpansion.Shell.Utility.Text

/-!
# Calculating with words

A program that finds the value of an expression, each sign of which is a word of its own; one that
takes numbers apart into primes; and one that writes numbers with units.

A value is a text or a whole number. It counts as nothing if it is empty or has no digit but zero.
-/

namespace HistoryExpansion.Shell.Utility

namespace Expr

/-! ## Values -/

/-- A value. -/
inductive Value where
  /-- A whole number. -/
  | number (n : Int)
  /-- A text. -/
  | text (octets : Octets)

/-- The text of a value. -/
def Value.octets : Value → Octets
  | number n => Utf8.ofString (toString n)
  | text octets => octets

/-- The number that a text writes. -/
def numberOf? (octets : Octets) : Option Int :=
  let (negative, digits) :=
    match octets with
    | 0x2D :: digits => (true, digits)
    | digits => (false, digits)
  if digits.isEmpty ∨ !digits.all isDigitOctet then none
  else some (if negative then -(digitsValue digits : Int) else digitsValue digits)

/-- The number that a value is. -/
def Value.number? : Value → Option Int
  | number n => some n
  | text octets => numberOf? octets

/-- Whether a value counts as nothing. -/
def Value.isNull (value : Value) : Bool :=
  let octets := value.octets
  let digits := if octets.head? = some 0x2D then octets.drop 1 else octets
  octets.isEmpty || (!digits.isEmpty && digits.all (· == 0x30))

/-! ## Faults -/

/-- Why an expression has no value. -/
inductive Fault where
  /-- A word is missing behind another one. -/
  | missing (word : String)
  /-- A word stands behind the expression. -/
  | unexpected (word : String)
  /-- A parenthesis is not closed behind a word. -/
  | unclosed (word : String)
  /-- Another word stands where a parenthesis should be closed. -/
  | notClosing (word : String)
  /-- A parenthesis is closed that was not opened. -/
  | closing
  /-- A number is needed. -/
  | notInteger
  /-- A number is divided by zero. -/
  | divisionByZero
  /-- A regular expression ends where a set of characters starts. -/
  | badPattern
  /-- A regular expression cannot be read. -/
  | pattern (fault : Regex.Fault)

/-- The wording of a fault. -/
def Fault.message : Fault → String
  | missing word => "syntax error: missing argument after " ++ quotedArgument word
  | unexpected word => "syntax error: unexpected argument " ++ quotedArgument word
  | unclosed word => "syntax error: expecting ')' after " ++ quotedArgument word
  | notClosing word => "syntax error: expecting ')' instead of " ++ quotedArgument word
  | closing => "syntax error: unexpected ')'"
  | notInteger => "non-integer argument"
  | divisionByZero => "division by zero"
  | badPattern => "Invalid regular expression"
  | pattern fault => fault.message

/-! ## Evaluation -/

/-- The words to come, and the word before them. -/
structure Words where
  /-- The word before. -/
  last : String
  /-- The words to come. -/
  rest : List String

/-- What reads words and finds a value. -/
abbrev Reader := StateT Words (Except Fault)

/-- Takes a word if it is the one that is asked for. -/
def takes (word : String) : Reader Bool := do
  match (← get).rest with
  | next :: rest =>
    if next = word then
      set (⟨next, rest⟩ : Words)
      return true
    return false
  | [] => return false

/-- Takes one of some words. -/
def takesOne (words : List String) : Reader (Option String) := do
  match (← get).rest with
  | next :: rest =>
    if words.contains next then
      set (⟨next, rest⟩ : Words)
      return some next
    return none
  | [] => return none

/-- Takes a word, which must be there. -/
def word : Reader String := do
  match (← get).rest with
  | next :: rest =>
    set (⟨next, rest⟩ : Words)
    return next
  | [] => throw (.missing (← get).last)

/-- What a text has of a pattern at its start: the part that is asked for, or how long it is. -/
def matched (value pattern : Value) : Except Fault Value :=
  match Regex.parse { extended := false } (charsOf pattern.octets) with
  | .error fault =>
    let ending := (charsOf pattern.octets).reverse
    if ending.head? = some '[' ∨ ending.take 2 = ['^', '['] then .error .badPattern
    else .error (.pattern fault)
  | .ok regex =>
    let found := regex.matchStart? {} (charsOf value.octets)
    if regex.groupCount > 0 then
      .ok (.text ((found.bind fun found => found.groups.lookup 1).elim [] octetsFrom))
    else .ok (.number ((found.elim 0 fun found => found.text.length) : Nat))

/-- The place of the first octet of a text that is among others; zero if there is none. -/
def placeOf (octets wanted : Octets) : Nat :=
  match octets.findIdx? wanted.contains with
  | some i => i + 1
  | none => 0

/-- A part of a text. -/
def partOf (octets : Octets) (start count : Option Int) : Octets :=
  match start, count with
  | some start, some count =>
    if start ≤ 0 ∨ count ≤ 0 then [] else (octets.drop (start.toNat - 1)).take count.toNat
  | _, _ => []

/-- Two values in a calculation. -/
def calculated (sign : String) (left right : Value) : Except Fault Value :=
  match left.number?, right.number? with
  | some a, some b =>
    match sign with
    | "+" => .ok (.number (a + b))
    | "-" => .ok (.number (a - b))
    | "*" => .ok (.number (a * b))
    | "/" => if b = 0 then .error .divisionByZero else .ok (.number (a.tdiv b))
    | _ => if b = 0 then .error .divisionByZero else .ok (.number (a.tmod b))
  | _, _ => .error .notInteger

/-- Two values in a comparison. -/
def compared (sign : String) (left right : Value) : Value :=
  let order :=
    match left.number?, right.number? with
    | some a, some b => compare a b
    | _, _ => compareOctets left.octets right.octets
  let holds : Bool :=
    match sign with
    | "<" => order == .lt
    | "<=" => order != .gt
    | "!=" => order != .eq
    | ">=" => order != .lt
    | ">" => order == .gt
    | _ => order == .eq
  .number (if holds then 1 else 0)

/-- Goes on with a chain of values between which signs stand, of the same strength. -/
def chain (signs : List String) (next : Reader Value)
    (join : String → Value → Value → Except Fault Value) (evaluates : Bool) :
    (fuel : Nat) → Value → Reader Value
  | 0, left => return left
  | fuel + 1, left => do
    match ← takesOne signs with
    | none => return left
    | some sign =>
      let right ← next
      let value ← if evaluates then join sign left right else pure left
      chain signs next join evaluates fuel value

mutual

/-- The value of a word, or of an expression in parentheses. -/
def primary (evaluates : Bool) : (fuel : Nat) → Reader Value
  | 0 => throw .notInteger
  | fuel + 1 => do
    if ← takes "(" then
      let value ← alternatives evaluates fuel
      match (← get).rest with
      | [] => throw (.unclosed (← get).last)
      | other :: _ =>
        if ← takes ")" then return value
        throw (.notClosing other)
    else if ← takes ")" then throw .closing
    else return .text (Utf8.ofString (← word))

/-- The value of a call of one of the functions of texts. -/
def function (evaluates : Bool) : (fuel : Nat) → Reader Value
  | 0 => throw .notInteger
  | fuel + 1 => do
    if ← takes "+" then return .text (Utf8.ofString (← word))
    else if ← takes "length" then
      return .number ((← function evaluates fuel).octets.length : Nat)
    else if ← takes "match" then
      let value ← function evaluates fuel
      let pattern ← function evaluates fuel
      if evaluates then matched value pattern else return value
    else if ← takes "index" then
      let value ← function evaluates fuel
      let wanted ← function evaluates fuel
      return .number (placeOf value.octets wanted.octets : Nat)
    else if ← takes "substr" then
      let value ← function evaluates fuel
      let start ← function evaluates fuel
      let count ← function evaluates fuel
      return .text (partOf value.octets start.number? count.number?)
    else primary evaluates fuel

/-- The value of a comparison with a pattern. -/
def pattern (evaluates : Bool) : (fuel : Nat) → Reader Value
  | 0 => throw .notInteger
  | fuel + 1 => do
    let first ← function evaluates fuel
    chain [":"] (function evaluates fuel) (fun _ => matched) evaluates fuel first

/-- The value of a product. -/
def product (evaluates : Bool) : (fuel : Nat) → Reader Value
  | 0 => throw .notInteger
  | fuel + 1 => do
    let first ← pattern evaluates fuel
    chain ["*", "/", "%"] (pattern evaluates fuel) calculated evaluates fuel first

/-- The value of a sum. -/
def sum (evaluates : Bool) : (fuel : Nat) → Reader Value
  | 0 => throw .notInteger
  | fuel + 1 => do
    let first ← product evaluates fuel
    chain ["+", "-"] (product evaluates fuel) calculated evaluates fuel first

/-- The value of a comparison. -/
def comparison (evaluates : Bool) : (fuel : Nat) → Reader Value
  | 0 => throw .notInteger
  | fuel + 1 => do
    let first ← sum evaluates fuel
    chain ["<", "<=", "=", "==", "!=", ">=", ">"] (sum evaluates fuel)
      (fun sign left right => .ok (compared sign left right)) evaluates fuel first

/-- Goes on with values of which all must be something. -/
def moreConjuncts (evaluates : Bool) : (fuel : Nat) → Value → Reader Value
  | 0, left => return left
  | fuel + 1, left => do
    if ← takes "&" then
      let right ← comparison (evaluates && !left.isNull) fuel
      moreConjuncts evaluates fuel (if left.isNull ∨ right.isNull then .number 0 else left)
    else return left

/-- Goes on with values of which the first that is something counts. -/
def moreAlternatives (evaluates : Bool) : (fuel : Nat) → Value → Reader Value
  | 0, left => return left
  | fuel + 1, left => do
    if ← takes "|" then
      let first ← comparison (evaluates && left.isNull) fuel
      let right ← moreConjuncts (evaluates && left.isNull) fuel first
      moreAlternatives evaluates fuel
        (if !left.isNull then left else if right.isNull then .number 0 else right)
    else return left

/-- The value of an expression. -/
def alternatives (evaluates : Bool) : (fuel : Nat) → Reader Value
  | 0 => throw .notInteger
  | fuel + 1 => do
    let first ← comparison evaluates fuel
    let left ← moreConjuncts evaluates fuel first
    moreAlternatives evaluates fuel left

end

/-- The value of all words. -/
def evaluate (words : List String) : Except Fault Value := do
  let (value, left) ← (alternatives true (10 * words.length + 20)).run ⟨"", words⟩
  match left.rest with
  | [] => return value
  | other :: _ => throw (.unexpected other)

end Expr

/-- Prints the value of an expression. -/
def expr : Utility := fun task =>
  let words := match task.arguments with
    | "--" :: rest => rest
    | words => words
  if words.isEmpty then task.misused "missing operand" 2
  else
    match Expr.evaluate words with
    | .error fault => task.fails fault.message 2
    | .ok value =>
      { task.done (value.octets ++ [0x0A]) with status := if value.isNull then 1 else 0 }

/-! ## Primes -/

/-- The primes whose product a number is, from a divisor on. -/
def primesFrom : (fuel : Nat) → (divisor n : Nat) → List Nat
  | 0, _, n => if n > 1 then [n] else []
  | fuel + 1, divisor, n =>
    if divisor * divisor > n then (if n > 1 then [n] else [])
    else if n % divisor = 0 then divisor :: primesFrom fuel divisor (n / divisor)
    else primesFrom fuel (if divisor = 2 then 3 else divisor + 2) n

/-- Takes numbers apart into primes. -/
def factor : Utility := fun task =>
  let rules : OptionRules := { flags := "h", names := [("exponents", 'h')] }
  task.withRules rules fun line =>
    let words :=
      if line.operands.isEmpty then
        ((String.ofList (Utf8.decodeLossy task.input)).toList.splitBy fun a b =>
          !a.isWhitespace && !b.isWhitespace).filterMap fun word =>
            if word.all Char.isWhitespace then none else some (String.ofList word)
      else line.operands
    let idle := if line.operands.isEmpty then { task.idle with unread := [] } else task.idle
    words.foldl
      (fun (report : Report) word =>
        let digits := match word.toList with
          | '+' :: digits => digits
          | digits => digits
        if digits.isEmpty ∨ !digits.all isDigit then
          report.complains
            (task.name ++ ": " ++ quotedArgument word ++ " is not a valid positive integer")
        else
          let n := decimal digits
          let found := primesFrom 2000000 2 n
          let shown :=
            if line.has 'h' then
              found.eraseDups.map fun p =>
                let count := found.count p
                " " ++ toString p ++ (if count > 1 then "^" ++ toString count else "")
            else found.map fun p => " " ++ toString p
          Report.prints report (toString n ++ ":" ++ String.join shown ++ "\n"))
      idle

/-! ## Units -/

/-- The letters of units, each a thousand times the one before. -/
def unitLetters : List Char := ['K', 'M', 'G', 'T', 'P', 'E', 'Z', 'Y', 'R', 'Q']

/-- Which units numbers are read or written with. -/
inductive UnitSystem where
  /-- None. -/
  | none
  /-- Powers of a thousand. -/
  | thousands
  /-- Powers of 1024, with a further letter behind the unit or not. -/
  | binary (marked : Bool)
  /-- Powers of a thousand, or of 1024 if a further letter stands behind the unit. -/
  | either
  deriving DecidableEq

/-- The system of a name. -/
def unitSystem? (name : String) : Option UnitSystem :=
  match name with
  | "none" => some .none
  | "si" => some .thousands
  | "iec" => some (.binary false)
  | "iec-i" => some (.binary true)
  | "auto" => some .either
  | _ => Option.none

/-- A number as so many tenths of powers of ten: its digits, and how many of them stand behind the
point. -/
structure ScaledNumber where
  /-- The digits, with the sign. -/
  units : Int
  /-- The number of digits behind the point. -/
  places : Nat
  /-- Whether it had a unit, and is written without a point for that. -/
  hadUnit : Bool := false

/-- Why a number with a unit cannot be read. -/
inductive UnitFault where
  /-- There is no number. -/
  | notNumber
  /-- There is a unit where none may be. -/
  | refused
  /-- What stands behind the number is no unit. -/
  | badSuffix (suffix : String)

/-- The wording of a fault. -/
def UnitFault.message (word : String) : UnitFault → String
  | notNumber => "invalid number: " ++ quotedArgument word
  | refused => "rejecting suffix in input: " ++ quotedArgument word ++ " (consider using --from)"
  | badSuffix suffix =>
    "invalid suffix in input " ++ quotedArgument word ++ ": " ++ quotedArgument suffix

/-- Reads a number with a unit. -/
def readUnits (system : UnitSystem) (word : String) : Except UnitFault ScaledNumber :=
  let (negative, body) :=
    match word.toList with
    | '-' :: rest => (true, rest)
    | rest => (false, rest)
  let whole := body.takeWhile isDigit
  let behind := body.drop whole.length
  let (part, rest) :=
    match behind with
    | '.' :: rest => (rest.takeWhile isDigit, rest.dropWhile isDigit)
    | rest => ([], rest)
  let units : Int := decimal (whole ++ part)
  let signed := if negative then -units else units
  if whole.isEmpty ∧ part.isEmpty then .error .notNumber
  else
    match rest with
    | [] => .ok ⟨signed, part.length, false⟩
    | letter :: more =>
      let power := match unitLetters.findIdx? (· == if letter = 'k' then 'K' else letter) with
        | some i => i + 1
        | Option.none => 0
      let scaled (base : Nat) : Except UnitFault ScaledNumber :=
        .ok ⟨signed * (base ^ power : Nat), part.length, true⟩
      let bad (text : List Char) : Except UnitFault ScaledNumber :=
        .error (.badSuffix (String.ofList text))
      if power = 0 then bad rest
      else
        match system, more with
        | .none, _ => .error .refused
        | .thousands, [] => scaled 1000
        | .binary false, [] => scaled 1024
        | .binary true, ['i'] => scaled 1024
        | .either, [] => scaled 1000
        | .either, ['i'] => scaled 1024
        | .binary true, _ => .error (.badSuffix (String.ofList rest))
        | .either, 'i' :: more => bad more
        | _, more => bad more

/-- How numbers are rounded: up, down, away from zero, towards it, or to the nearest. -/
def roundedQuotient (way : String) (numerator : Int) (denominator : Nat) : Int :=
  let size := numerator.natAbs
  let low := size / denominator
  let rest := size % denominator
  let negative := numerator < 0
  let rounded :=
    if rest = 0 then low
    else
      match way with
      | "up" => if negative then low else low + 1
      | "down" => if negative then low + 1 else low
      | "towards-zero" => low
      | "nearest" => if 2 * rest ≥ denominator then low + 1 else low
      | _ => low + 1
  if negative then -(rounded : Int) else rounded

/-- A number with a point. -/
def withPlaces (units : Int) (places : Nat) : String :=
  let digits := toString units.natAbs
  let filled := String.ofList (List.replicate (places + 1 - digits.length) '0') ++ digits
  let sign := if units < 0 then "-" else ""
  if places = 0 then sign ++ filled
  else
    let whole := filled.toList.take (filled.length - places)
    sign ++ String.ofList whole ++ "." ++ String.ofList (filled.toList.drop whole.length)

/-- A number written with a unit. -/
def writeUnits (system : UnitSystem) (way : String) (number : ScaledNumber) : String :=
  let scale := 10 ^ number.places
  let write (base : Nat) (mark : String) : String :=
    let size := number.units.natAbs
    let rec power (fuel k : Nat) : Nat :=
      match fuel with
      | 0 => k
      | fuel + 1 => if size ≥ base ^ (k + 1) * scale then power fuel (k + 1) else k
    let first := power 10 0
    let shown (k : Nat) : Option String :=
      let unit := if k = 0 then "" else String.ofList ((unitLetters[k - 1]?).toList) ++ mark
      let tenths := roundedQuotient way (number.units * 10) (base ^ k * scale)
      let whole := roundedQuotient way number.units (base ^ k * scale)
      if k = 0 then
        if whole.natAbs ≥ base then Option.none else some (toString whole)
      else if tenths.natAbs < 100 then some (withPlaces tenths 1 ++ unit)
      else if whole.natAbs < base then some (toString whole ++ unit)
      else Option.none
    (shown first).getD ((shown (first + 1)).getD "")
  match system with
  | .thousands => write 1000 ""
  | .either => write 1000 ""
  | .binary marked => write 1024 (if marked then "i" else "")
  | .none =>
    if number.hadUnit then toString (roundedQuotient way number.units scale)
    else withPlaces number.units number.places

/-- Writes numbers with units, or without. -/
def numfmt : Utility := fun task =>
  let rules : OptionRules :=
    { flags := "z", takers := "d"
      named := "H", namedTakers := "TFPSRfh"
      names := [("to", 'T'), ("from", 'F'), ("padding", 'P'), ("suffix", 'S'), ("round", 'R'),
        ("field", 'f'), ("delimiter", 'd'), ("header", 'H'), ("grouping", 'H'), ("format", 'h')] }
  task.withRules rules fun line =>
    let system (letter : Char) (option : String) : Except String UnitSystem :=
      match line.value? letter with
      | Option.none => .ok .none
      | some word =>
        match unitSystem? word with
        | some system => .ok system
        | Option.none =>
          .error ("invalid argument " ++ quotedArgument word ++ " for '--" ++ option ++ "'")
    match system 'F' "from", system 'T' "to" with
    | .error message, _ => task.misused message
    | _, .error message => task.misused message
    | .ok source, .ok goal =>
      let suffix := (line.value? 'S').getD ""
      let way := (line.value? 'R').getD "from-zero"
      let padding := (line.value? 'P').bind fun word => word.toInt?
      let convert (word : String) : Except UnitFault String :=
        let body := if suffix ≠ "" ∧ word.endsWith suffix then
            String.ofList (word.toList.take (word.length - suffix.length)) else word
        match readUnits source body with
        | .error fault => .error fault
        | .ok number =>
          let text := writeUnits goal way number ++ suffix
          .ok <| match padding with
            | some width =>
              if width < 0 then
                text ++ String.ofList (List.replicate (width.natAbs - text.length) ' ')
              else padded width.toNat text
            | Option.none => text
      let field := ((line.value? 'f').map fun word => decimal word.toList).getD 1
      let convertLine (text : String) : Except (String × UnitFault) String :=
        let separator := ((line.value? 'd').bind fun word => word.toList.head?).getD ' '
        let parts := Text.splitAtEach separator text.toList
        let parts := if line.has 'd' then parts else parts.filter (!·.isEmpty)
        let parts := parts.map String.ofList
        match parts[field - 1]? with
        | Option.none => .ok text
        | some word =>
          match convert word with
          | .error fault => .error (word, fault)
          | .ok shown =>
            .ok (String.intercalate separator.toString (parts.set (field - 1) shown))
      let step (report : Report) (text : String) (result : Except (String × UnitFault) String) :
          Report :=
        let _ := text
        if report.status ≠ 0 then report
        else
          match result with
          | .ok shown => Report.prints report (shown ++ "\n")
          | .error (word, fault) => report.complains (task.name ++ ": " ++ fault.message word) 2
      if line.operands.isEmpty then
        ((linesOf task.input).map fun text => String.ofList (Utf8.decodeLossy text)).foldl
          (fun report text => step report text (convertLine text)) { task.idle with unread := [] }
      else
        line.operands.foldl
          (fun report word =>
            step report word ((convert word).mapError fun fault => (word, fault)))
          task.idle

end HistoryExpansion.Shell.Utility
