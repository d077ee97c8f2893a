import HistoryExpansion.Text.Blank

/-!
# Expressions

What the text after a trigger may name: the last command, a command by its signed number, the
oldest command that starts with a word, or the oldest command that holds a run of non-blank
characters. Every other text is *plain*. `Expression.classify` reads a text and `Expression.typed`
writes an expression the way it is typed.
-/

namespace HistoryExpansion

/-- What a text after the trigger refers to. -/
inductive Expression where
  /-- The newest command, typed `!`. -/
  | last
  /-- A command by its number: from the oldest if positive, from the newest if negative. -/
  | index (number : Int64)
  /-- The oldest command that starts with the token. -/
  | beginning (token : String)
  /-- The oldest command that holds the token, typed after a question mark. -/
  | containing (token : String)
  /-- No reference to a command. -/
  | plain
  deriving DecidableEq, Repr

namespace Expression

/-- Whether the expression refers to a command. -/
def isExpansion : Expression → Bool
  | plain => false
  | _ => true

/-- One of the ten ASCII digits. -/
def isDigit (c : Char) : Bool :=
  '0' ≤ c && c ≤ '9'

/-- An ASCII letter, an ASCII digit or the underscore. -/
def isWordChar (c : Char) : Bool :=
  isDigit c || ('a' ≤ c && c ≤ 'z') || ('A' ≤ c && c ≤ 'Z') || c == '_'

/-- A non-empty run of digits. -/
def isDigits (text : List Char) : Bool :=
  !text.isEmpty && text.all isDigit

/-- A non-empty run of word characters. -/
def isWord (text : List Char) : Bool :=
  !text.isEmpty && text.all isWordChar

/-- A non-empty run of characters that are not blank. -/
def isUnbroken (text : List Char) : Bool :=
  !text.isEmpty && text.all fun c => !Text.isBlank c

/-- The number that a run of digits writes in base ten. -/
def digitsValue (digits : List Char) : Nat :=
  digits.foldl (fun value c => value * 10 + (c.toNat - '0'.toNat)) 0

/-- The number that a numeral writes: digits, perhaps after one minus sign. -/
def numeral? : List Char → Option Int
  | '-' :: digits => if isDigits digits then some (-(digitsValue digits : Int)) else none
  | digits => if isDigits digits then some (digitsValue digits : Int) else none

/-- The expression that a list of characters writes. A run of digits is a number, never a word, and
a number beyond the signed 64-bit range stands for the nearest end of that range. -/
def ofChars (text : List Char) : Expression :=
  if text = ['!'] then last
  else
    match numeral? text with
    | some value => index (Int64.ofIntClamp value)
    | none =>
      if isWord text then beginning (String.ofList text)
      else
        match text with
        | '?' :: token => if isUnbroken token then containing (String.ofList token) else plain
        | _ => plain

/-- The expression that a text writes. -/
def classify (text : String) : Expression :=
  ofChars text.toList

/-- The expression as it is typed after a trigger; plain text has no form of its own. -/
def typed : Expression → String
  | last => "!"
  | index number => toString number.toInt
  | beginning token => token
  | containing token => "?" ++ token
  | plain => ""

end Expression

end HistoryExpansion
