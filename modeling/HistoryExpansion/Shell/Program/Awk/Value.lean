import HistoryExpansion.Shell.Format

/-!
# Values of fields and variables

A value is a number or a text. A text that comes from the input counts as a number where it looks
like one. A character of a text stands for one octet.
-/

namespace HistoryExpansion.Shell.Awk

/-- A value. -/
inductive Value where
  /-- The value of what was never set: zero and the empty text. -/
  | unset
  /-- A number. -/
  | number (number : Float)
  /-- A text. -/
  | text (text : List Char)
  /-- A text of the input. -/
  | input (text : List Char)

/-! ## Numbers -/

/-- The number of a sign and a size, by the octets that it is kept in. -/
def floatOf : Floating → Float
  | .finite negative size =>
    let sign := if negative then 2 ^ 63 else 0
    let shift := size.log2 - 52
    let body := if size < 2 ^ 52 then size else (shift + 1) * 2 ^ 52 + (size >>> shift - 2 ^ 52)
    Float.ofBits (sign + body).toUInt64
  | .infinite negative => if negative then -1.0 / 0.0 else 1.0 / 0.0
  | .undefined _ => 0.0 / 0.0

/-- The sign and the size of a number. -/
def floatingOf (number : Float) : Floating :=
  let bits := number.toBits.toNat
  let negative := bits ≥ 2 ^ 63
  let power := bits / 2 ^ 52 % 2 ^ 11
  let body := bits % 2 ^ 52
  if power = 2047 then if body = 0 then .infinite negative else .undefined true
  else if power = 0 then .finite negative body
  else .finite negative ((body + 2 ^ 52) * 2 ^ (power - 1))

/-- The number that a text starts with, or zero. -/
def numberAt (text : List Char) : Float :=
  match BinaryFormat.double.take? text with
  | some (number, _, _) => floatOf number
  | none => 0.0

/-- Whether a character starts a number. -/
def startsNumber (c : Char) : Bool :=
  isDigit c || c == '+' || c == '-' || c == '.'

/-- The number that a text looks like. Only blanks may stand around it. -/
def wholeNumber? (text : List Char) : Option Float :=
  let text := dropSpace text
  if text.head?.any startsNumber then
    match BinaryFormat.double.take? text with
    | some (number, _, rest) =>
      if (dropSpace rest).isEmpty then some (floatOf number) else none
    | none => none
  else none

/-- The whole number that a number is. -/
def integerOf? (number : Float) : Option Int :=
  if number.abs ≤ 18446744073709551616.0 ∧ number.floor == number then
    if number ≥ 9223372036854775808.0 then some number.toUInt64.toNat
    else if number > -9223372036854775808.0 then some number.toInt64.toInt
    else none
  else none

/-- A number with its fraction cut off, held within the whole numbers of eight octets. -/
def truncated (number : Float) : Int :=
  if number != number then -(2 ^ 63)
  else if number ≥ 9223372036854775808.0 then 2 ^ 63 - 1
  else if number ≤ -9223372036854775808.0 then -(2 ^ 63) + 1
  else number.toInt64.toInt

namespace Value

/-- The number that a value counts as. -/
def toNumber : Value → Float
  | unset => 0.0
  | number n => n
  | text chars => numberAt chars
  | input chars => numberAt chars

/-- The number that a value is, be it one of the input. -/
def number? : Value → Option Float
  | unset => some 0.0
  | number n => some n
  | text _ => none
  | input chars => wholeNumber? chars

/-- Whether a value counts as true. -/
def holds : Value → Bool
  | unset => false
  | number n => n != 0.0
  | text chars => !chars.isEmpty
  | input chars =>
    match wholeNumber? chars with
    | some n => n != 0.0
    | none => !chars.isEmpty

/-- A truth value. -/
def ofBool (holds : Bool) : Value :=
  number (if holds then 1.0 else 0.0)

/-- The value of a natural number. -/
def ofNat (n : Nat) : Value :=
  number (Float.ofNat n)

end Value

/-! ## Formats -/

/-- What is wrong with a format. -/
inductive FormatFault where
  /-- There are too few values. -/
  | tooFew
  /-- The directive of a number is none. -/
  | improper (number : Nat)
  deriving DecidableEq, Repr

/-- The characters of octets that are characters by themselves. -/
def charsIn (octets : Octets) : List Char :=
  octets.map fun octet => Char.ofNat octet.toNat

/-- A text with blanks up to a width. -/
def padded (directive : Directive) (chars : List Char) : List Char :=
  let blanks := List.replicate (directive.width - chars.length) ' '
  if directive.left then chars ++ blanks else blanks ++ chars

/-- A number that may be too large for a sign, as a directive for whole numbers shows it. -/
def shownWhole (directive : Directive) (number : Float) : List Char :=
  let value : Int :=
    if number ≥ 9223372036854775808.0 then number.toUInt64.toNat else truncated number
  charsIn (directive.signed value)

/-- A number without a sign. -/
def unsignedOf (number : Float) : Nat :=
  if number ≥ 0.0 then number.toUInt64.toNat else ((truncated number) % 2 ^ 64).toNat

/-- A number with a fraction, as a directive shows it. -/
def shownFloating (directive : Directive) (conversion : Char) (number : Float) : List Char :=
  charsIn (directive.floating .double conversion (floatingOf number))

/-- A number as a text: a whole one in its digits, another one in the first directive of a format.
-/
def numberText (format : List Char) (number : Float) : List Char :=
  match integerOf? number with
  | some whole => (toString whole).toList
  | none =>
    let before := format.takeWhile (· ≠ '%')
    let (directive, rest) := takeFlags {} ((format.drop before.length).drop 1)
    let (directive, _, rest) := takeMeasures { left := [] } directive rest
    match rest with
    | c :: behind =>
      if "eEfFgG".toList.contains c then before ++ shownFloating directive c number ++ behind
      else if c = 'd' ∨ c = 'i' then before ++ shownWhole directive number ++ behind
      else before ++ behind
    | [] => before

/-- The text of a value, with a format for numbers that are not whole. -/
def Value.toText (format : List Char) : Value → List Char
  | .unset => []
  | .number n => numberText format n
  | .text chars => chars
  | .input chars => chars

/-- The code of the character that a value stands for. -/
def characterOf (value : Value) : Char :=
  let code (number : Float) : Char := Char.ofNat ((truncated number) % 256).toNat
  match value with
  | .unset => code 0.0
  | .number n => code n
  | .text chars => chars.headD '\x00'
  | .input chars =>
    match wholeNumber? chars with
    | some n => code n
    | none => chars.headD '\x00'

/-- A value as a directive shows it. -/
def shownAs (convert : List Char) (directive : Directive) (conversion : Char) (value : Value) :
    Option (List Char) :=
  let capital (chars : List Char) : List Char := chars.map Char.toUpper
  let unsigned (mark : String) (base : Nat) : List Char :=
    charsIn (directive.unsigned mark base (unsignedOf value.toNumber))
  match conversion with
  | 's' =>
    let chars := value.toText convert
    some (padded directive ((directive.precision.map chars.take).getD chars))
  | 'c' => some (padded directive [characterOf value])
  | 'd' => some (shownWhole directive value.toNumber)
  | 'i' => some (shownWhole directive value.toNumber)
  | 'o' => some (unsigned "0" 8)
  | 'x' => some (unsigned "0x" 16)
  | 'X' => some (capital (unsigned "0x" 16))
  | 'u' => some (unsigned "" 10)
  | c =>
    if "eEfFgG".toList.contains c then some (shownFloating directive c value.toNumber) else none

/-- The number at the start of a format, or the next value for a star. -/
def takeSize : List Char → List Value → Except FormatFault (Option Int × List Char × List Value)
  | '*' :: rest, value :: values => .ok (some (truncated value.toNumber), rest, values)
  | '*' :: _, [] => .error .tooFew
  | text, values =>
    let digits := text.takeWhile isDigit
    .ok (if digits.isEmpty then none else some (decimal digits), text.drop digits.length, values)

/-- What values print in a format. `count` is the number of directives so far. -/
def printed (convert : List Char) : (fuel : Nat) → (count : Nat) → List Char → List Value →
    List Char × Option FormatFault
  | 0, _, _, _ => ([], none)
  | _, _, [], _ => ([], none)
  | fuel + 1, count, '%' :: '%' :: rest, values =>
    let (more, fault) := printed convert fuel count rest values
    ('%' :: more, fault)
  | fuel + 1, count, '%' :: rest, values =>
    let (directive, rest) := takeFlags {} rest
    let shown : Except FormatFault (List Char × List Char × List Value) := do
      let (width, rest, values) ← takeSize rest values
      let width := width.getD 0
      let (precision, rest, values) ←
        match rest with
        | '.' :: rest => do
          let (size, rest, values) ← takeSize rest values
          let size := size.getD 0
          pure (if size < 0 then none else some size.toNat, rest, values)
        | rest => pure (none, rest, values)
      let rest := rest.dropWhile fun c => c == 'h' || c == 'l' || c == 'L'
      let directive :=
        { directive with
          width := width.natAbs, left := directive.left || width < 0, precision := precision }
      match rest, values with
      | [], _ => .error (.improper (count + 1))
      | c :: rest, value :: values =>
        match shownAs convert directive c value with
        | some shown => .ok (shown, rest, values)
        | none => .error (.improper (count + 1))
      | _ :: _, [] => .error .tooFew
    match shown with
    | .error fault => ([], some fault)
    | .ok (shown, rest, values) =>
      let (more, fault) := printed convert fuel (count + 1) rest values
      (shown ++ more, fault)
  | fuel + 1, count, c :: rest, values =>
    let (more, fault) := printed convert fuel count rest values
    (c :: more, fault)

/-! ## Order -/

/-- The order of two texts by their characters. -/
def compareTexts : List Char → List Char → Ordering
  | [], [] => .eq
  | [], _ :: _ => .lt
  | _ :: _, [] => .gt
  | a :: as, b :: bs => if a = b then compareTexts as bs else if a < b then .lt else .gt

/-- What two values are compared by: their numbers if both are, and else their texts. -/
def compareValues (convert : List Char) (first second : Value) : Option Ordering :=
  let texts : Option Ordering :=
    some (compareTexts (first.toText convert) (second.toText convert))
  match first.number?, second.number? with
  | some a, some b => if a < b then some .lt else if a > b then some .gt
      else if a == b then some .eq else none
  | _, _ => texts

end HistoryExpansion.Shell.Awk
