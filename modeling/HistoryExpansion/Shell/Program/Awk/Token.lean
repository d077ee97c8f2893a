import HistoryExpansion.Shell.Program.Awk.Program
import HistoryExpansion.Shell.Escape

/-!
# Words of a program

The text of a program is cut into words and signs. A slash starts a regular expression where no
operand stands before it. The ends of lines count, but not behind signs after which a statement goes
on.
-/

namespace HistoryExpansion.Shell.Awk

/-- A word or a sign of a program. -/
inductive Token where
  /-- A number. -/
  | number (value : Float)
  /-- A text. -/
  | text (value : List Char)
  /-- A regular expression. -/
  | regex (source : List Char)
  /-- A name. -/
  | name (name : String)
  /-- A name with a parenthesis right behind it. -/
  | called (name : String)
  /-- A word of the language. -/
  | word (word : String)
  /-- A function that is always there. -/
  | known (name : String)
  /-- A sign. -/
  | sign (sign : String)
  /-- The end of a line. -/
  | lineEnd
  /-- The end of the program. -/
  | finish
  /-- What cannot be read. -/
  | wrong (fault : Fault)

/-- A token, with its text and the line that it stands in. -/
structure Lexeme where
  /-- The token. -/
  token : Token
  /-- Its text. -/
  text : String
  /-- Its line. -/
  line : Nat

/-- The words of the language. -/
def words : List String :=
  ["BEGIN", "END", "function", "if", "else", "while", "for", "do", "break", "continue", "next",
    "nextfile", "exit", "return", "delete", "in", "getline", "print", "printf"]

/-- The functions that are always there, with the least and the greatest number of their
arguments. -/
def knownFunctions : List (String × Nat × Nat) :=
  [("length", 0, 1), ("substr", 2, 3), ("index", 2, 2), ("split", 2, 3), ("sub", 2, 3),
    ("gsub", 2, 3), ("match", 2, 2), ("sprintf", 1, 255), ("sin", 1, 1), ("cos", 1, 1),
    ("atan2", 2, 2), ("exp", 1, 1), ("log", 1, 1), ("sqrt", 1, 1), ("int", 1, 1), ("rand", 0, 0),
    ("srand", 0, 1), ("tolower", 1, 1), ("toupper", 1, 1), ("system", 1, 1), ("close", 1, 1),
    ("fflush", 0, 1), ("systime", 0, 0), ("mktime", 1, 1), ("strftime", 0, 3)]

/-- The signs, longer ones first. -/
def signTexts : List String :=
  ["&&", "||", "==", "!=", "<=", ">=", ">>", "++", "--", "+=", "-=", "*=", "/=", "%=", "^=", "!~",
    "\x7b", "\x7d", "(", ")", "[", "]", ";", ",", "+", "-", "*", "/", "%", "^", "!", ">", "<", "|",
    "?", ":", "~", "$", "="]

/-- Whether a line may end behind a token without an end of the statement. -/
def Token.goesOn : Token → Bool
  | sign shown => ["\x7b", "&&", "||", ",", ";"].contains shown
  | word shown => ["do", "else"].contains shown
  | _ => false

/-- Whether a token is the end of an operand. -/
def Token.endsOperand : Token → Bool
  | number _ => true
  | text _ => true
  | regex _ => true
  | name _ => true
  | known _ => true
  | sign shown => [")", "]", "$", "++", "--"].contains shown
  | _ => false

/-- Whether a character starts a name. -/
def startsName (c : Char) : Bool :=
  c.isAlpha || c == '_'

/-- Whether a character is a part of a name. -/
def isNamePart (c : Char) : Bool :=
  startsName c || isDigit c

/-- The characters of a text, with what stands behind backslashes in its place. -/
def unescapedText : (fuel : Nat) → List Char → List Char
  | 0, text => text
  | _, [] => []
  | fuel + 1, '\\' :: c :: rest =>
    let control : Option Char :=
      match c with
      | '"' => some '"'
      | '\\' => some '\\'
      | 'b' => some '\x08'
      | c => Regex.controlChar? c
    match control with
    | some c => c :: unescapedText fuel rest
    | none =>
      if c = '\n' then unescapedText fuel rest
      else if startsWithDigit 8 [c] then
        let (code, rest) := takeSomeDigits 8 3 0 (c :: rest)
        Char.ofNat (code % 256) :: unescapedText fuel rest
      else if c = 'x' ∧ startsWithDigit 16 rest then
        let (code, rest) := takeSomeDigits 16 2 0 rest
        Char.ofNat (code % 256) :: unescapedText fuel rest
      else '\\' :: c :: unescapedText fuel rest
  | fuel + 1, c :: rest => c :: unescapedText fuel rest

/-- Takes the body of a text, up to the quote behind it. -/
def takeText : List Char → (taken : List Char) → Option (List Char × List Char)
  | [], _ => none
  | '"' :: rest, taken => some (taken.reverse, rest)
  | '\\' :: c :: rest, taken => takeText rest (c :: '\\' :: taken)
  | '\n' :: _, _ => none
  | c :: rest, taken => takeText rest (c :: taken)

/-- Takes the body of a regular expression, up to the slash behind it. -/
def takeRegex : (bracket : Bool) → List Char → (taken : List Char) → Option (List Char × List Char)
  | _, [], _ => none
  | _, '\n' :: _, _ => none
  | false, '/' :: rest, taken => some (taken.reverse, rest)
  | false, '\\' :: '/' :: rest, taken => takeRegex false rest ('/' :: taken)
  | bracket, '\\' :: c :: rest, taken => takeRegex bracket rest (c :: '\\' :: taken)
  | false, '[' :: '^' :: ']' :: rest, taken => takeRegex true rest (']' :: '^' :: '[' :: taken)
  | false, '[' :: ']' :: rest, taken => takeRegex true rest (']' :: '[' :: taken)
  | true, '[' :: ':' :: rest, taken => takeClass rest (':' :: '[' :: taken)
  | true, ']' :: rest, taken => takeRegex false rest (']' :: taken)
  | bracket, c :: rest, taken => takeRegex (bracket || c == '[') rest (c :: taken)
where
  /-- Goes on within the name of a class. -/
  takeClass : List Char → (taken : List Char) → Option (List Char × List Char)
    | [], _ => none
    | ':' :: ']' :: rest, taken => takeRegex true rest (']' :: ':' :: taken)
    | c :: rest, taken => takeClass rest (c :: taken)

/-- Takes a number. -/
def takeDecimal (text : List Char) : List Char × List Char :=
  let whole := text.takeWhile isDigit
  let rest := text.drop whole.length
  let (places, rest) :=
    match rest with
    | '.' :: behind =>
      let digits := behind.takeWhile isDigit
      ('.' :: digits, behind.drop digits.length)
    | rest => ([], rest)
  let (power, rest) :=
    match rest with
    | c :: behind =>
      if c = 'e' ∨ c = 'E' then
        let sign := (behind.take 1).filter fun c => c == '+' || c == '-'
        let digits := (behind.drop sign.length).takeWhile isDigit
        if digits.isEmpty then ([], rest)
        else (c :: sign ++ digits, behind.drop (sign.length + digits.length))
      else ([], rest)
    | [] => ([], [])
  (whole ++ places ++ power, rest)

/-- How far a text was cut. -/
structure Cutting where
  /-- The line. -/
  line : Nat := 1
  /-- The last token, if it is on this line. -/
  last : Option Token := none
  /-- The number of parentheses that are open. -/
  parentheses : Nat := 0
  /-- The number of braces that are open. -/
  braces : Nat := 0

/-- Cuts a text into tokens. -/
def lexemes : (fuel : Nat) → Cutting → List Char → List Lexeme
  | 0, _, _ => []
  | fuel + 1, cutting, text =>
    let emit (token : Token) (shown : List Char) (rest : List Char) (cutting : Cutting) :
        List Lexeme :=
      ⟨token, String.ofList shown, cutting.line⟩ ::
        lexemes fuel { cutting with last := some token } rest
    let wrong (fault : Fault) : List Lexeme := [⟨.wrong fault, "", cutting.line⟩]
    match text with
    | [] =>
      if cutting.braces > 0 then wrong .openBrace else [⟨.finish, "end of file", cutting.line⟩]
    | '\\' :: '\n' :: rest => lexemes fuel { cutting with line := cutting.line + 1 } rest
    | '#' :: rest => lexemes fuel cutting (rest.dropWhile (· ≠ '\n'))
    | '\n' :: rest =>
      let below : Cutting := { cutting with line := cutting.line + 1 }
      if (cutting.last.map Token.goesOn).getD false then lexemes fuel below rest
      else if cutting.parentheses > 0 then
        ⟨.wrong (.openParenthesis "end of line"), "", cutting.line⟩ ::
          lexemes fuel { below with last := some .lineEnd, parentheses := 0 } rest
      else
        ⟨.lineEnd, "end of line", cutting.line⟩ ::
          lexemes fuel { below with last := some .lineEnd } rest
    | '"' :: rest =>
      match takeText rest [] with
      | some (body, behind) =>
        emit (.text (unescapedText (body.length + 1) body)) ('"' :: body ++ ['"']) behind
          { cutting with line := cutting.line + body.count '\n' }
      | none => wrong (.openText (String.ofList ('"' :: (rest.takeWhile (· ≠ '\n')).take 10)))
    | c :: rest =>
      if c = ' ' ∨ c = '\t' ∨ c = '\x0d' then lexemes fuel cutting rest
      else if isDigit c ∨ (c = '.' ∧ rest.head?.any isDigit) then
        let (digits, rest) := takeDecimal text
        emit (.number (numberAt digits)) digits rest cutting
      else if startsName c then
        let name := text.takeWhile isNamePart
        let rest := text.drop name.length
        let word := String.ofList name
        let token : Token :=
          if words.contains word then .word word
          else if (knownFunctions.lookup word).isSome then .known word
          else if rest.head? = some '(' then .called word
          else .name word
        emit token name rest cutting
      else if c = '/' ∧ !(cutting.last.map Token.endsOperand).getD false then
        match takeRegex false rest [] with
        | some (body, behind) => emit (.regex body) ('/' :: body ++ ['/']) behind cutting
        | none =>
          let shown := (rest.takeWhile (· ≠ '\n')).take 10
          wrong (.openRegex (String.ofList ('/' :: shown)))
      else
        match signTexts.find? fun sign => sign.toList.isPrefixOf text with
        | some sign =>
          let behind := text.drop sign.length
          let give (cutting : Cutting) : List Lexeme :=
            emit (.sign sign) sign.toList behind cutting
          if sign = "(" then give { cutting with parentheses := cutting.parentheses + 1 }
          else if sign = ")" then
            if cutting.parentheses = 0 then wrong .extraParenthesis
            else give { cutting with parentheses := cutting.parentheses - 1 }
          else if sign = "\x7b" then give { cutting with braces := cutting.braces + 1 }
          else if sign = "\x7d" then
            if cutting.parentheses > 0 then wrong (.openParenthesis sign)
            else if cutting.braces = 0 then wrong .extraBrace
            else give { cutting with braces := cutting.braces - 1 }
          else give cutting
        | none => wrong (.unknownCharacter c)

/-- The tokens of a program. -/
def tokensOf (text : List Char) : List Lexeme :=
  lexemes (2 * text.length + 4) {} (text ++ ['\n'])

end HistoryExpansion.Shell.Awk
