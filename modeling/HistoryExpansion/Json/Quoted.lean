import HistoryExpansion.Failure
import HistoryExpansion.Number

/-!
# Quoted strings

JSON's string literals. `quote` writes a string, with an escape for the quote, the backslash and
the control characters and for nothing else. `readQuoted` reads what follows the opening quote and
reports the first fault it meets; it accepts only literals that stand for a list of characters, so
an escaped half of a surrogate pair must have its other half behind it.
-/

namespace HistoryExpansion.Json

/-- A reader takes a value off the front of a text or reports a fault. -/
abbrev Reader (α : Type) := List Char → Except JsonFault (α × List Char)

/-- The digit with a value below sixteen, in lower case. -/
def hexDigit (value : Nat) : Char :=
  if value < 10 then Char.ofNat (0x30 + value) else Char.ofNat (0x57 + value)

/-- The value of a hexadecimal digit in either case. -/
def hexValue? (c : Char) : Option Nat :=
  if '0' ≤ c ∧ c ≤ '9' then some (c.toNat - 0x30)
  else if 'a' ≤ c ∧ c ≤ 'f' then some (c.toNat - 0x57)
  else if 'A' ≤ c ∧ c ≤ 'F' then some (c.toNat - 0x37)
  else none

/-- The value of four hexadecimal digits. -/
def hexUnit? (a b c d : Char) : Option Nat := do
  let a ← hexValue? a
  let b ← hexValue? b
  let c ← hexValue? c
  let d ← hexValue? d
  return ((a * 16 + b) * 16 + c) * 16 + d

/-- The fault of an escape that has no room for four digits. Four octets that are not four digits
are malformed; a text with fewer octets left has ended, whatever they are. -/
def shortUnit (rest : List Char) : JsonFault :=
  if 4 ≤ sumOf (rest.map Char.utf8Size) then .malformed else .ended

/-- The character of a one-letter escape. -/
def escaped? (c : Char) : Option Char :=
  if c = '"' then some '"'
  else if c = '\\' then some '\\'
  else if c = '/' then some '/'
  else if c = 'b' then some '\x08'
  else if c = 'f' then some '\x0c'
  else if c = 'n' then some '\n'
  else if c = 'r' then some '\r'
  else if c = 't' then some '\t'
  else none

/-- How one character is written inside a literal. -/
def escape (c : Char) : List Char :=
  if c = '"' then ['\\', '"']
  else if c = '\\' then ['\\', '\\']
  else if c = '\x08' then ['\\', 'b']
  else if c = '\x0c' then ['\\', 'f']
  else if c = '\n' then ['\\', 'n']
  else if c = '\r' then ['\\', 'r']
  else if c = '\t' then ['\\', 't']
  else if c.toNat < 0x20 then
    ['\\', 'u', '0', '0', hexDigit (c.toNat / 16), hexDigit (c.toNat % 16)]
  else [c]

/-- The literal of a string, with its quotes. -/
def quote (text : List Char) : List Char :=
  '"' :: (text.flatMap escape ++ ['"'])

/-- Whether a unit is the first half of a surrogate pair. -/
def isHighSurrogate (unit : Nat) : Bool :=
  0xD800 ≤ unit && unit ≤ 0xDBFF

/-- Whether a unit is the second half of a surrogate pair. -/
def isLowSurrogate (unit : Nat) : Bool :=
  0xDC00 ≤ unit && unit ≤ 0xDFFF

/-- The character that a surrogate pair stands for. -/
def pairChar (high low : Nat) : Char :=
  Char.ofNat ((high - 0xD800) * 0x400 + (low - 0xDC00) + 0x10000)

/-- Puts a character in front of the string that a reader found. -/
def consChar (c : Char) (found : Except JsonFault (List Char × List Char)) :
    Except JsonFault (List Char × List Char) :=
  found.map fun (text, rest) => (c :: text, rest)

/-- Reads a literal from behind its opening quote to behind its closing one. -/
def readQuoted : Reader (List Char)
  | [] => .error .ended
  | '"' :: rest => .ok ([], rest)
  | '\\' :: 'u' :: a :: b :: c :: d :: rest =>
    match hexUnit? a b c d with
    | none => .error .malformed
    | some unit =>
      if isLowSurrogate unit then .error .malformed
      else if isHighSurrogate unit then
        match rest with
        | [] => .error .ended
        | ['\\'] => .error .ended
        | '\\' :: 'u' :: e :: f :: g :: h :: rest =>
          match hexUnit? e f g h with
          | none => .error .malformed
          | some low =>
            if isLowSurrogate low then consChar (pairChar unit low) (readQuoted rest)
            else .error .malformed
        | '\\' :: 'u' :: rest => .error (shortUnit rest)
        | _ => .error .malformed
      else consChar (Char.ofNat unit) (readQuoted rest)
  | '\\' :: 'u' :: rest => .error (shortUnit rest)
  | ['\\'] => .error .ended
  | '\\' :: c :: rest =>
    match escaped? c with
    | some c => consChar c (readQuoted rest)
    | none => .error .malformed
  | c :: rest => if c.toNat < 0x20 then .error .malformed else consChar c (readQuoted rest)

/-- Passes over a literal from behind its opening quote to behind its closing one. Its escapes need
only be well formed one by one, so a lone half of a surrogate pair is passed over. -/
def skipQuoted : List Char → Except JsonFault (List Char)
  | [] => .error .ended
  | '"' :: rest => .ok rest
  | '\\' :: 'u' :: a :: b :: c :: d :: rest =>
    if (hexUnit? a b c d).isSome then skipQuoted rest else .error .malformed
  | '\\' :: 'u' :: rest => .error (shortUnit rest)
  | ['\\'] => .error .ended
  | '\\' :: c :: rest => if (escaped? c).isSome then skipQuoted rest else .error .malformed
  | c :: rest => if c.toNat < 0x20 then .error .malformed else skipQuoted rest

end HistoryExpansion.Json
