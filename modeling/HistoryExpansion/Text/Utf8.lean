/-!
# UTF-8

Texts are lists of characters and files are lists of octets. `encode` turns the one into the other,
`decode` goes back and says where and how octets fail to be UTF-8, and `decodeLossy` puts the
replacement character where they fail.
-/

namespace HistoryExpansion

/-- A run of octets: the content of a file or of a stream. -/
abbrev Octets := List UInt8

namespace Utf8

/-- The octets of one character. -/
def encodeChar (c : Char) : Octets :=
  let n := c.toNat
  if n < 0x80 then [n.toUInt8]
  else if n < 0x800 then [(0xC0 + n / 0x40).toUInt8, (0x80 + n % 0x40).toUInt8]
  else if n < 0x10000 then
    [(0xE0 + n / 0x1000).toUInt8, (0x80 + n / 0x40 % 0x40).toUInt8, (0x80 + n % 0x40).toUInt8]
  else
    [(0xF0 + n / 0x40000).toUInt8, (0x80 + n / 0x1000 % 0x40).toUInt8,
      (0x80 + n / 0x40 % 0x40).toUInt8, (0x80 + n % 0x40).toUInt8]

/-- The octets of a text. -/
def encode (text : List Char) : Octets :=
  text.flatMap encodeChar

/-- The octets of a string. -/
def ofString (text : String) : Octets :=
  encode text.toList

/-- The octets that may stand behind the first one of a character. -/
def isTail (octet : UInt8) : Bool :=
  0x80 ≤ octet && octet ≤ 0xBF

/-- The octets that may stand second behind a first octet of three. -/
def isSecondOfThree (first second : UInt8) : Bool :=
  if first = 0xE0 then 0xA0 ≤ second && second ≤ 0xBF
  else if first = 0xED then 0x80 ≤ second && second ≤ 0x9F
  else isTail second

/-- The octets that may stand second behind a first octet of four. -/
def isSecondOfFour (first second : UInt8) : Bool :=
  if first = 0xF0 then 0x90 ≤ second && second ≤ 0xBF
  else if first = 0xF4 then 0x80 ≤ second && second ≤ 0x8F
  else isTail second

/-- What a run of octets starts with. -/
inductive Front where
  /-- Nothing is left. -/
  | done
  /-- A character, with the octets behind it. -/
  | char (c : Char) (rest : Octets)
  /-- Octets that no character starts with, with their number and the octets behind them. -/
  | invalid (length : Nat) (rest : Octets)
  /-- The first octets of a character that is cut short by the end. -/
  | incomplete
  deriving DecidableEq, Repr

/-- The character of two octets. -/
def char2 (a b : UInt8) : Char :=
  Char.ofNat ((a.toNat - 0xC0) * 0x40 + (b.toNat - 0x80))

/-- The character of three octets. -/
def char3 (a b c : UInt8) : Char :=
  Char.ofNat ((a.toNat - 0xE0) * 0x1000 + (b.toNat - 0x80) * 0x40 + (c.toNat - 0x80))

/-- The character of four octets. -/
def char4 (a b c d : UInt8) : Char :=
  Char.ofNat ((a.toNat - 0xF0) * 0x40000 + (b.toNat - 0x80) * 0x1000 + (c.toNat - 0x80) * 0x40 +
    (d.toNat - 0x80))

/-- The front behind a first octet of two. -/
def front2 (a : UInt8) : Octets → Front
  | [] => .incomplete
  | b :: rest => if isTail b then .char (char2 a b) rest else .invalid 1 (b :: rest)

/-- The front behind a first octet of three. -/
def front3 (a : UInt8) : Octets → Front
  | [] => .incomplete
  | b :: rest =>
    if isSecondOfThree a b then
      match rest with
      | [] => .incomplete
      | c :: rest => if isTail c then .char (char3 a b c) rest else .invalid 2 (c :: rest)
    else .invalid 1 (b :: rest)

/-- The front behind a first octet of four. -/
def front4 (a : UInt8) : Octets → Front
  | [] => .incomplete
  | b :: rest =>
    if isSecondOfFour a b then
      match rest with
      | [] => .incomplete
      | c :: rest =>
        if isTail c then
          match rest with
          | [] => .incomplete
          | d :: rest => if isTail d then .char (char4 a b c d) rest else .invalid 3 (d :: rest)
        else .invalid 2 (c :: rest)
    else .invalid 1 (b :: rest)

/-- What the octets start with: the shortest run that no character starts with, if it is no
character. -/
def front : Octets → Front
  | [] => .done
  | a :: rest =>
    if a < 0x80 then .char (Char.ofNat a.toNat) rest
    else if 0xC2 ≤ a ∧ a ≤ 0xDF then front2 a rest
    else if 0xE0 ≤ a ∧ a ≤ 0xEF then front3 a rest
    else if 0xF0 ≤ a ∧ a ≤ 0xF4 then front4 a rest
    else .invalid 1 rest

/-- Where octets cease to be UTF-8. -/
structure Fault where
  /-- The number of octets before the fault. -/
  offset : Nat
  /-- The number of octets that no character starts with; none for a character cut short. -/
  length : Option Nat
  deriving DecidableEq, Repr

/-- The wording of a fault. -/
def Fault.message (fault : Fault) : String :=
  match fault.length with
  | some length =>
    "invalid utf-8 sequence of " ++ toString length ++ " bytes from index " ++ toString fault.offset
  | none => "incomplete utf-8 byte sequence from index " ++ toString fault.offset

/-- Decodes octets from an offset on; each character takes at least one octet of the fuel. -/
def decodeWithin : (fuel : Nat) → (offset : Nat) → Octets → Except Fault (List Char)
  | 0, offset, _ => .error ⟨offset, none⟩
  | fuel + 1, offset, octets =>
    match front octets with
    | .done => .ok []
    | .char c rest =>
      (decodeWithin fuel (offset + c.utf8Size) rest).map (c :: ·)
    | .invalid length _ => .error ⟨offset, some length⟩
    | .incomplete => .error ⟨offset, none⟩

/-- The text that octets encode, or the first fault in them. -/
def decode (octets : Octets) : Except Fault (List Char) :=
  decodeWithin (octets.length + 1) 0 octets

/-- The character that stands in for octets that are not UTF-8. -/
def replacement : Char := '\uFFFD'

/-- Decodes octets with a replacement for each fault. -/
def decodeLossyWithin : (fuel : Nat) → Octets → List Char
  | 0, _ => []
  | fuel + 1, octets =>
    match front octets with
    | .done => []
    | .char c rest => c :: decodeLossyWithin fuel rest
    | .invalid _ rest => replacement :: decodeLossyWithin fuel rest
    | .incomplete => [replacement]

/-- The text that octets encode, with one replacement character for each longest run of octets that
starts like a character and is none. -/
def decodeLossy (octets : Octets) : List Char :=
  decodeLossyWithin (octets.length + 1) octets

end Utf8

end HistoryExpansion
