import HistoryExpansion.Text.Utf8

/-!
# Base 64

Three octets are written as four digits of six bits each. `encode` writes octets, with equals signs
in place of the digits that the last ones lack; `decode` reads exactly what is so written.
-/

namespace HistoryExpansion.Base64

/-- The digits, by their values. -/
def digits : List Char :=
  "ABCDEFGHIJKLMNOPQRSTUVWXYZabcdefghijklmnopqrstuvwxyz0123456789+/".toList

/-- The digit of a value below sixty-four. -/
def digit (value : Nat) : Char :=
  digits.getD value '='

/-- The value of a digit. -/
def value? (c : Char) : Option Nat :=
  if 'A' ≤ c ∧ c ≤ 'Z' then some (c.toNat - 'A'.toNat)
  else if 'a' ≤ c ∧ c ≤ 'z' then some (c.toNat - 'a'.toNat + 26)
  else if '0' ≤ c ∧ c ≤ '9' then some (c.toNat - '0'.toNat + 52)
  else if c = '+' then some 62
  else if c = '/' then some 63
  else none

/-- The digits of octets. -/
def encode : Octets → List Char
  | [] => []
  | [a] => [digit (a.toNat / 4), digit (a.toNat % 4 * 16), '=', '=']
  | [a, b] =>
    [digit (a.toNat / 4), digit (a.toNat % 4 * 16 + b.toNat / 16), digit (b.toNat % 16 * 4), '=']
  | a :: b :: c :: rest =>
    digit (a.toNat / 4) :: digit (a.toNat % 4 * 16 + b.toNat / 16) ::
      digit (b.toNat % 16 * 4 + c.toNat / 64) :: digit (c.toNat % 64) :: encode rest

/-- The octets that digits write. The bits of the last digit that no octet takes must be zero. -/
def decode : List Char → Option Octets
  | [] => some []
  | [a, b, '=', '='] =>
    match value? a, value? b with
    | some a, some b => if b % 16 = 0 then some [(a * 4 + b / 16).toUInt8] else none
    | _, _ => none
  | [a, b, c, '='] =>
    match value? a, value? b, value? c with
    | some a, some b, some c =>
      if c % 4 = 0 then some [(a * 4 + b / 16).toUInt8, (b % 16 * 16 + c / 4).toUInt8] else none
    | _, _, _ => none
  | a :: b :: c :: d :: rest =>
    match value? a, value? b, value? c, value? d, decode rest with
    | some a, some b, some c, some d, some rest =>
      some ((a * 4 + b / 16).toUInt8 :: (b % 16 * 16 + c / 4).toUInt8 ::
        (c % 4 * 64 + d).toUInt8 :: rest)
    | _, _, _, _, _ => none
  | _ => none

end HistoryExpansion.Base64
