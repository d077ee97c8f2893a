import HistoryExpansion.Shell.Arithmetic

/-!
# Numbers with a fraction

A number with a fraction has so many binary digits as its format keeps. Every finite one is a
multiple of the format's least positive number, so a natural number is its size. Reading rounds to
the nearest size and showing to the nearest decimal, each time to the even one of two that are
equally near.
-/

namespace HistoryExpansion.Shell

/-- How numbers are kept. -/
structure BinaryFormat where
  /-- The number of binary digits. -/
  digits : Nat
  /-- The least positive number is two to the power of minus this. -/
  depth : Nat
  /-- The numbers from two to the power of this on are infinite. -/
  height : Nat

/-- Numbers of eight octets. -/
def BinaryFormat.double : BinaryFormat := ⟨53, 1074, 1024⟩

/-- Numbers of ten octets. -/
def BinaryFormat.extended : BinaryFormat := ⟨64, 16445, 16384⟩

/-- A number with a fraction. -/
inductive Floating where
  /-- So many times the least positive number of its format. -/
  | finite (negative : Bool) (size : Nat)
  /-- A number beyond all finite ones. -/
  | infinite (negative : Bool)
  /-- No number. -/
  | undefined (negative : Bool)

/-- Whether a sign stands before a number. -/
def Floating.negative : Floating → Bool
  | .finite negative _ => negative
  | .infinite negative => negative
  | .undefined negative => negative

/-- The natural number that is nearest to a quotient, of two the even one. -/
def nearest (numerator denominator : Nat) : Nat :=
  let quotient := numerator / denominator
  let twice := 2 * (numerator % denominator)
  if twice > denominator ∨ (twice = denominator ∧ quotient % 2 = 1) then quotient + 1
  else quotient

/-! ## Reading -/

/-- The number nearest to a quotient, and whether the quotient is out of the format's range. -/
def BinaryFormat.hold (format : BinaryFormat) (negative : Bool) (numerator denominator : Nat) :
    Floating × Bool :=
  let numerator := numerator * 2 ^ format.depth
  let length := (numerator / denominator).log2 + 1
  let step := 2 ^ (length - format.digits)
  let size := step * nearest numerator (denominator * step)
  if size ≥ 2 ^ (format.height + format.depth) then (.infinite negative, true)
  else (.finite negative size, length < format.digits ∧ numerator % denominator ≠ 0)

/-- Takes digits with a point among them: their value, and how many of them stand behind the
point. -/
def takePlaces (base : Nat) (text : List Char) : Option (Nat × Nat × List Char) :=
  let (whole, behind) := takeDigits base 0 text
  let (value, places, rest) :=
    match behind with
    | '.' :: behind =>
      let (value, rest) := takeDigits base whole behind
      (value, behind.length - rest.length, rest)
    | behind => (whole, 0, behind)
  if text.length = behind.length ∧ places = 0 then none else some (value, places, rest)

/-- Takes an exponent behind its mark; without digits there is none. -/
def takeExponent (mark : Char) (text : List Char) : Int × List Char :=
  match text with
  | c :: behind =>
    if c.toLower = mark then
      let (negative, digits) :=
        match behind with
        | '-' :: rest => (true, rest)
        | '+' :: rest => (false, rest)
        | rest => (false, rest)
      let (value, rest) := takeDigits 10 0 digits
      if digits.length = rest.length then (0, text)
      else (if negative then -(value : Int) else value, rest)
    else (0, text)
  | [] => (0, [])

/-- The number nearest to a value times a power. An exponent so large that the number is zero or
infinite in any format counts no further. -/
def BinaryFormat.scaled (format : BinaryFormat) (negative : Bool) (value base : Nat)
    (exponent : Int) : Floating × Bool :=
  let bound : Int := 20000 + value.log2
  let exponent := max (-bound) (min bound exponent)
  if value = 0 then (.finite negative 0, false)
  else format.hold negative (value * base ^ exponent.toNat) (base ^ (-exponent).toNat)

/-- What is left of a text behind a word, in letters of any case. -/
def afterWord? (word : String) (text : List Char) : Option (List Char) :=
  if (text.take word.length).map Char.toLower = word.toList then some (text.drop word.length)
  else none

/-- Takes a number: blanks, a sign, and decimal digits, digits in base sixteen or a name. It comes
with whether it was out of range. -/
def BinaryFormat.take? (format : BinaryFormat) (text : List Char) :
    Option (Floating × Bool × List Char) :=
  let (negative, text) :=
    match dropSpace text with
    | '-' :: rest => (true, rest)
    | '+' :: rest => (false, rest)
    | rest => (false, rest)
  let decimal :=
    (takePlaces 10 text).map fun (value, places, rest) =>
      let (exponent, rest) := takeExponent 'e' rest
      let (number, outside) := format.scaled negative value 10 (exponent - places)
      (number, outside, rest)
  match (afterWord? "infinity" text).or (afterWord? "inf" text), afterWord? "nan" text with
  | some rest, _ => some (.infinite negative, false, rest)
  | none, some rest => some (.undefined negative, false, rest)
  | none, none =>
    match (afterWord? "0x" text).bind (takePlaces 16) with
    | some (value, places, rest) =>
      let (exponent, rest) := takeExponent 'p' rest
      let (number, outside) := format.scaled negative value 2 (exponent - 4 * places)
      some (number, outside, rest)
    | none => decimal

/-! ## Showing -/

/-- Decimal digits with a point before the last so many of them; a point with nothing behind it
only if it is asked for. -/
def withPoint (digits places : Nat) (pointed : Bool) : String :=
  let text := toString digits
  let text := (String.ofList (List.replicate (places + 1 - text.length) '0') ++ text).toList
  let whole := String.ofList (text.take (text.length - places))
  if places = 0 then whole ++ (if pointed then "." else "")
  else whole ++ "." ++ String.ofList (text.drop (text.length - places))

/-- A size with so many places behind the point. -/
def BinaryFormat.fixed (format : BinaryFormat) (size places : Nat) (pointed : Bool) : String :=
  withPoint (nearest (size * 10 ^ places) (2 ^ format.depth)) places pointed

/-- The power of ten that a size starts with. -/
def BinaryFormat.magnitude (format : BinaryFormat) (size : Nat) : Int :=
  let unit := 2 ^ format.depth
  if size = 0 then 0
  else if size ≥ unit then (toString (size / unit)).length - 1
  else -(toString ((unit + size - 1) / size - 1)).length

/-- One digit and so many further ones of a size, with the power of ten of the first. -/
def BinaryFormat.leading (format : BinaryFormat) (size places : Nat) : Nat × Int :=
  let power := format.magnitude size
  let shift := (places : Int) - power
  let digits :=
    nearest (size * 10 ^ shift.toNat) (2 ^ format.depth * 10 ^ (-shift).toNat)
  if digits ≥ 10 ^ (places + 1) then (digits / 10, power + 1) else (digits, power)

/-- A power of ten behind its mark, with at least two digits. -/
def exponentText (power : Int) : String :=
  let digits := toString power.natAbs
  (if power < 0 then "e-" else "e+") ++ (if digits.length < 2 then "0" else "") ++ digits

/-- A size as one digit, so many places behind the point, and a power of ten. -/
def BinaryFormat.scientific (format : BinaryFormat) (size places : Nat) (pointed : Bool) :
    String :=
  let (digits, power) := format.leading size places
  withPoint digits places pointed ++ exponentText power

/-- A decimal without the zeros that end it, and without a point that would. -/
def withoutZeros (text : String) : String :=
  if text.contains '.' then
    let short := text.toList.reverse.dropWhile (· == '0')
    String.ofList (if short.head? = some '.' then short.drop 1 else short).reverse
  else text

/-- A size with at most so many digits, with a power of ten only if it is small or has more digits
before the point than these. -/
def BinaryFormat.general (format : BinaryFormat) (size digits : Nat) (pointed : Bool) : String :=
  let digits := max digits 1
  let (leading, power) := format.leading size (digits - 1)
  let trim := if pointed then id else withoutZeros
  if -4 ≤ power ∧ power < digits then
    trim (format.fixed size ((digits : Int) - 1 - power).toNat pointed)
  else trim (withPoint leading (digits - 1) pointed) ++ exponentText power

/-- A number without its sign, shown as a letter says: `e` for powers of ten, `f` for places, `g`
for the shorter of the two. -/
def BinaryFormat.text (format : BinaryFormat) (conversion : Char) (precision : Nat)
    (pointed : Bool) : Floating → String
  | .infinite _ => "inf"
  | .undefined _ => "nan"
  | .finite _ size =>
    if conversion = 'e' then format.scientific size precision pointed
    else if conversion = 'f' then format.fixed size precision pointed
    else format.general size precision pointed

end HistoryExpansion.Shell
