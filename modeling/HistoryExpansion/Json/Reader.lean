import HistoryExpansion.Json.Quoted

/-!
# Reading JSON

Readers for the shapes that a history file is made of: strings, lists and, where a value does not
matter, any value at all. A text is read from left to right and the first fault met is the one
reported. A value of another shape than the one asked for is read as far as it takes to see what it
is: `mistyped` gives the fault of it.
-/

namespace HistoryExpansion.Json

/-- One of the four characters that may stand between JSON tokens. -/
def isSpace (c : Char) : Bool :=
  c == ' ' || c == '\n' || c == '\t' || c == '\r'

/-- The text from its first character that is not a space on. -/
def skipSpace (text : List Char) : List Char :=
  text.dropWhile isSpace

/-- One of the ten digits. -/
def isDigit (c : Char) : Bool :=
  '0' ≤ c && c ≤ '9'

/-- Reads the rest of a word such as `null` when its first letter has been read. -/
def readWord : (word text : List Char) → Except JsonFault (List Char)
  | [], text => .ok text
  | _ :: _, [] => .error .ended
  | w :: word, c :: text => if w = c then readWord word text else .error .malformed

/-! ## Numbers that are passed over -/

/-- Passes over the exponent of a number, from behind its letter. -/
def skipExponent (text : List Char) : Except JsonFault (List Char) :=
  let digits :=
    match text with
    | '+' :: rest => rest
    | '-' :: rest => rest
    | rest => rest
  match digits with
  | c :: rest => if isDigit c then .ok (rest.dropWhile isDigit) else .error .malformed
  | [] => .error .malformed

/-- Passes over the exponent of a number if it has one. -/
def skipExponent? : List Char → Except JsonFault (List Char)
  | 'e' :: rest => skipExponent rest
  | 'E' :: rest => skipExponent rest
  | rest => .ok rest

/-- Passes over what follows the integer part of a number. -/
def skipFraction? : List Char → Except JsonFault (List Char)
  | '.' :: rest =>
    match rest with
    | c :: _ => if isDigit c then skipExponent? (rest.dropWhile isDigit) else .error .malformed
    | [] => .error .malformed
  | rest => skipExponent? rest

/-- Passes over a number from behind its sign. Here a number that is cut short is malformed. -/
def skipNumber : List Char → Except JsonFault (List Char)
  | '0' :: rest =>
    match rest with
    | c :: _ => if isDigit c then .error .malformed else skipFraction? rest
    | [] => .ok []
  | c :: rest => if isDigit c then skipFraction? (rest.dropWhile isDigit) else .error .malformed
  | [] => .error .malformed

/-! ## Values that are passed over -/

mutual

/-- Passes over one value of any shape. -/
def skipValueWithin : (fuel : Nat) → List Char → Except JsonFault (List Char)
  | 0, _ => .error .ended
  | fuel + 1, text =>
    match skipSpace text with
    | [] => .error .ended
    | 'n' :: rest => readWord ['u', 'l', 'l'] rest
    | 't' :: rest => readWord ['r', 'u', 'e'] rest
    | 'f' :: rest => readWord ['a', 'l', 's', 'e'] rest
    | '"' :: rest => skipQuoted rest
    | '-' :: rest => skipNumber rest
    | '[' :: rest =>
      match skipSpace rest with
      | ']' :: rest => .ok rest
      | rest => skipItemsWithin fuel rest
    | '\x7b' :: rest =>
      match skipSpace rest with
      | '\x7d' :: rest => .ok rest
      | rest => skipMembersWithin fuel rest
    | c :: rest => if isDigit c then skipNumber (c :: rest) else .error .malformed

/-- Passes over the values of a list, from its first value to behind its closing bracket. -/
def skipItemsWithin : (fuel : Nat) → List Char → Except JsonFault (List Char)
  | 0, _ => .error .ended
  | fuel + 1, text =>
    match skipValueWithin fuel text with
    | .error fault => .error fault
    | .ok rest =>
      match skipSpace rest with
      | [] => .error .ended
      | ',' :: rest => skipItemsWithin fuel rest
      | ']' :: rest => .ok rest
      | _ => .error .malformed

/-- Passes over the members of an object, from its first key to behind its closing brace. -/
def skipMembersWithin : (fuel : Nat) → List Char → Except JsonFault (List Char)
  | 0, _ => .error .ended
  | fuel + 1, text =>
    match skipSpace text with
    | [] => .error .ended
    | '"' :: rest =>
      match skipQuoted rest with
      | .error fault => .error fault
      | .ok rest =>
        match skipSpace rest with
        | [] => .error .ended
        | ':' :: rest =>
          match skipValueWithin fuel rest with
          | .error fault => .error fault
          | .ok rest =>
            match skipSpace rest with
            | [] => .error .ended
            | ',' :: rest => skipMembersWithin fuel rest
            | '\x7d' :: rest => .ok rest
            | _ => .error .malformed
        | _ => .error .malformed
    | _ => .error .malformed

end

/-- Passes over one value of any shape. Each level of nesting takes at least one character. -/
def skipValue (text : List Char) : Except JsonFault (List Char) :=
  skipValueWithin (2 * text.length + 2) text

/-! ## Values of another shape than the one asked for -/

/-- A number's value is a significand times a power of ten. -/
structure Scaled where
  /-- The leading digits, as many as a 64-bit word holds. -/
  significand : Nat
  /-- The power of ten. -/
  exponent : Int
  deriving DecidableEq, Repr

namespace Scaled

/-- Takes one more digit into the significand, unless a 64-bit word would not hold it. -/
def push? (significand : Nat) (c : Char) : Option Nat :=
  let next := significand * 10 + (c.toNat - 0x30)
  if next < 2 ^ 64 then some next else none

/-- A natural number cut to 53 binary digits, to the nearest and from the middle to the even. -/
def roundTo53 (value : Nat) : Nat :=
  let bits := value.log2 + 1
  if bits ≤ 53 then value
  else
    let unit := 2 ^ (bits - 53)
    let quotient := value / unit
    let remainder := value % unit
    let up := 2 * remainder > unit ∨ (2 * remainder = unit ∧ quotient % 2 = 1)
    (if up then quotient + 1 else quotient) * unit

/-- Whether a number is beyond the doubles: the product of its rounded significand and its rounded
power of ten is nearer to the power of two above the largest double than to that double. -/
def isHuge (number : Scaled) : Bool :=
  number.significand != 0 && number.exponent ≥ 0 &&
    (number.exponent > 308 ||
      roundTo53 number.significand * roundTo53 (10 ^ number.exponent.toNat) ≥ 2 ^ 1024 - 2 ^ 970)

/-- The fault of a complete number: beyond the doubles it is malformed, else of another shape. -/
def fault (number : Scaled) : JsonFault :=
  if number.isHuge then .malformed else .misshapen

end Scaled

/-- The fault of a number from behind the letter of its exponent. -/
def mistypedExponent (number : Scaled) (text : List Char) : JsonFault :=
  let (negative, digits) :=
    match text with
    | '+' :: rest => (false, rest)
    | '-' :: rest => (true, rest)
    | rest => (false, rest)
  match digits with
  | [] => .ended
  | c :: _ =>
    if isDigit c then
      let power : Int :=
        (digits.takeWhile isDigit).foldl (fun value c => value * 10 + (c.toNat - 0x30)) 0
      Scaled.fault ⟨number.significand, number.exponent + (if negative then -power else power)⟩
    else .malformed

/-- The fault of a number whose digits have all been read. -/
def mistypedExponent? (number : Scaled) : List Char → JsonFault
  | 'e' :: rest => mistypedExponent number rest
  | 'E' :: rest => mistypedExponent number rest
  | _ => number.fault

/-- The fault of a number from within the digits behind its point. -/
def mistypedDecimals (number : Scaled) : List Char → JsonFault
  | [] => number.fault
  | c :: rest =>
    if isDigit c then
      match Scaled.push? number.significand c with
      | some significand => mistypedDecimals ⟨significand, number.exponent - 1⟩ rest
      | none => mistypedExponent? number ((c :: rest).dropWhile isDigit)
    else mistypedExponent? number (c :: rest)

/-- The fault of a number from behind its integer part. -/
def mistypedFraction (number : Scaled) : List Char → JsonFault
  | '.' :: rest =>
    match rest with
    | [] => .ended
    | c :: _ => if isDigit c then mistypedDecimals number rest else .malformed
  | rest => mistypedExponent? number rest

/-- The fault of a number from within its integer digits. Digits that the significand has no room
for only raise the exponent. -/
def mistypedInteger (significand : Nat) : List Char → JsonFault
  | [] => .misshapen
  | c :: rest =>
    if isDigit c then
      match Scaled.push? significand c with
      | some significand => mistypedInteger significand rest
      | none =>
        let further := (c :: rest).takeWhile isDigit
        mistypedFraction ⟨significand, further.length⟩ ((c :: rest).dropWhile isDigit)
    else mistypedFraction ⟨significand, 0⟩ (c :: rest)

/-- The fault of a number from behind its sign. Here a number that is cut short has ended. -/
def mistypedNumber : List Char → JsonFault
  | [] => .ended
  | '0' :: rest =>
    match rest with
    | c :: _ => if isDigit c then .malformed else mistypedFraction ⟨0, 0⟩ rest
    | [] => .misshapen
  | c :: rest => if isDigit c then mistypedInteger 0 (c :: rest) else .malformed

/-- The fault of a word that stands where another shape was asked for. -/
def mistypedWord (word text : List Char) : JsonFault :=
  match readWord word text with
  | .ok _ => .misshapen
  | .error fault => fault

/-- The fault of a string that stands where another shape was asked for. -/
def mistypedString (text : List Char) : JsonFault :=
  match readQuoted text with
  | .ok _ => .misshapen
  | .error fault => fault

/-- The fault of a value that stands where another shape was asked for. -/
def mistyped : List Char → JsonFault
  | [] => .ended
  | 'n' :: rest => mistypedWord ['u', 'l', 'l'] rest
  | 't' :: rest => mistypedWord ['r', 'u', 'e'] rest
  | 'f' :: rest => mistypedWord ['a', 'l', 's', 'e'] rest
  | '"' :: rest => mistypedString rest
  | '-' :: rest => mistypedNumber rest
  | '[' :: _ => .misshapen
  | '\x7b' :: _ => .misshapen
  | c :: rest => if isDigit c then mistypedNumber (c :: rest) else .malformed

/-! ## Strings and lists -/

/-- Reads a string. -/
def readString : Reader String := fun text =>
  match skipSpace text with
  | '"' :: rest => (readQuoted rest).map fun (found, rest) => (String.ofList found, rest)
  | rest => .error (mistyped rest)

/-- Reads the items of a list, from its first item to behind its closing bracket. -/
def readItemsWithin {α : Type} (item : Reader α) : (fuel : Nat) → Reader (List α)
  | 0, _ => .error .ended
  | fuel + 1, text =>
    match item text with
    | .error fault => .error fault
    | .ok (first, rest) =>
      match skipSpace rest with
      | [] => .error .ended
      | ']' :: rest => .ok ([first], rest)
      | ',' :: rest =>
        match skipSpace rest with
        | [] => .error .ended
        | ']' :: _ => .error .malformed
        | rest =>
          match readItemsWithin item fuel rest with
          | .error fault => .error fault
          | .ok (items, rest) => .ok (first :: items, rest)
      | _ => .error .malformed

/-- Reads a list of items, each of which takes at least one character. -/
def readList {α : Type} (item : Reader α) : Reader (List α) := fun text =>
  match skipSpace text with
  | '[' :: rest =>
    match skipSpace rest with
    | [] => .error .ended
    | ']' :: rest => .ok ([], rest)
    | rest => readItemsWithin item (rest.length + 1) rest
  | rest => .error (mistyped rest)

end HistoryExpansion.Json
