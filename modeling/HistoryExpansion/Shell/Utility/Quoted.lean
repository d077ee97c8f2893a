import HistoryExpansion.Text.Utf8

/-!
# Names in messages

A name stands in a message as it could be typed at a prompt: in single quotes if a character of it
means something to a shell, in double quotes if only its apostrophes do, and with octets that cannot
be shown written by their numbers. An argument that is no name stands in single quotes, with a
backslash before what cannot stand there.
-/

namespace HistoryExpansion.Shell

/-- Whether an octet is a letter or a digit. -/
def isWordOctet (octet : UInt8) : Bool :=
  (0x30 ≤ octet && octet ≤ 0x39) || (0x41 ≤ octet && octet ≤ 0x5A) ||
    (0x61 ≤ octet && octet ≤ 0x7A)

/-- The octets of some characters. -/
def octetsOf (characters : String) : Octets :=
  Utf8.ofString characters

/-- Whether an octet means nothing to a shell wherever it stands. -/
def isHarmless (octet : UInt8) : Bool :=
  isWordOctet octet || (octetsOf "%+,-./:@_]").contains octet

/-- Whether an octet means something to a shell where it stands: at the start of a name or behind
it. -/
def needsCare (first alone : Bool) (octet : UInt8) : Bool :=
  if (octetsOf "#~").contains octet then first
  else if (octetsOf "\x7b\x7d").contains octet then alone
  else !isHarmless octet

/-- Whether a name cannot stand without quotes. -/
def needsQuotes (name : Octets) : Bool :=
  match name with
  | [] => true
  | octet :: rest =>
    needsCare true rest.isEmpty octet || rest.any (needsCare false false) || name.contains 0x3A

/-- The code of the apostrophe. -/
def apostrophe : UInt8 := 0x27

/-- Whether a name can stand in double quotes as it is. -/
def fitsDoubleQuotes (name : Octets) : Bool :=
  name.contains apostrophe &&
    name.all fun octet => isHarmless octet || octet == apostrophe || octet == 0x20

/-- The digits of an octet in base eight. -/
def octalDigits (octet : UInt8) : Octets :=
  [0x30 + octet / 64, 0x30 + octet / 8 % 8, 0x30 + octet % 8]

/-- The letter that stands for a control character behind a backslash, if there is one. -/
def controlLetter? (octet : UInt8) : Option UInt8 :=
  ([0x07, 0x08, 0x09, 0x0A, 0x0B, 0x0C, 0x0D] : Octets).zip (octetsOf "abtnvfr") |>.lookup octet

/-- The octets within single quotes that stand for a name. Octets that cannot be shown stand in
quotes of their own, which are open or not. -/
def withinQuotes : (numbering : Bool) → Octets → Octets
  | _, [] => []
  | numbering, octet :: rest =>
    if octet < 0x20 ∨ 0x7F ≤ octet then
      let written := (controlLetter? octet).elim (octalDigits octet) ([·])
      (if numbering then [] else octetsOf "'$'") ++ octetsOf "\\" ++ written ++
        withinQuotes true rest
    else if octet = apostrophe then octetsOf "'\\''" ++ withinQuotes false rest
    else (if numbering then octetsOf "''" else []) ++ octet :: withinQuotes false rest

/-- A name in quotes. -/
def quotedAlways (name : String) : String :=
  let octets := octetsOf name
  if fitsDoubleQuotes octets then "\"" ++ name ++ "\""
  else String.ofList (Utf8.decodeLossy (octetsOf "'" ++ withinQuotes false octets ++ octetsOf "'"))

/-- A name, in quotes if it cannot stand without. -/
def quoted (name : String) : String :=
  if needsQuotes (octetsOf name) then quotedAlways name else name

/-- A text that a shell would read back, in quotes if it cannot stand without. -/
def quotedIfUnsafe (text : String) : String :=
  let octets := octetsOf text
  if octets.isEmpty then "''"
  else if (octets.all isHarmless) then text
  else quotedAlways text

/-- An argument that is no name. -/
def quotedArgument (argument : String) : String :=
  let written (octet : UInt8) : Octets :=
    if octet < 0x20 ∨ 0x7F ≤ octet then
      octetsOf "\\" ++ (controlLetter? octet).elim (octalDigits octet) ([·])
    else if octet = apostrophe ∨ octet = 0x5C then [0x5C, octet]
    else [octet]
  String.ofList (Utf8.decodeLossy
    (octetsOf "'" ++ (octetsOf argument).flatMap written ++ octetsOf "'"))

end HistoryExpansion.Shell
