import HistoryExpansion.Shell.Word

/-!
# Reading conditions between double brackets

A condition is made of tests of one or two words, which are joined by signs and put in parentheses.
It is read right from the text of a command, since its words are cut by rules of their own: a word
on the right of a test may be a pattern or a regular expression.
-/

namespace HistoryExpansion.Shell.Clause

/-- Why a condition cannot be read. -/
inductive Fault where
  /-- A word ends too early. -/
  | cut (cut : Cut)
  /-- Something stands where it may not; the first text says what is wrong. -/
  | misplaced (reason near : String)

/-- What reading gives: a condition and what follows it. -/
abbrev Reading := Except Fault (Clause × List Char)

/-- Drops blanks, line breaks and comments. -/
def dropBlanks (text : List Char) : List Char :=
  text.dropWhile fun c => c == ' ' || c == '\t' || c == '\n'

/-- The tests of one word. -/
def unaryTests : List String :=
  ["-a", "-b", "-c", "-d", "-e", "-f", "-g", "-h", "-k", "-n", "-o", "-p", "-r", "-s", "-t", "-u",
    "-v", "-w", "-x", "-z", "-G", "-L", "-N", "-O", "-R", "-S"]

/-- The tests of two words that are words themselves. -/
def binaryTests : List String :=
  ["=", "==", "!=", "=~", "-eq", "-ne", "-lt", "-le", "-gt", "-ge", "-nt", "-ot", "-ef"]

/-- The sign that a text starts with. -/
def signAt? (text : List Char) : Option String :=
  if text.head? = some '\n' ∨ text.isEmpty then some "newline"
  else
    ["&&", "||", "<", ">", "(", ")", ";", "&", "|"].find? fun sign => sign.toList.isPrefixOf text

/-- How the next part of a text is named in messages. -/
def nameAt (text : List Char) : String :=
  let text := text.dropWhile fun c => c == ' ' || c == '\t'
  (signAt? text).getD (String.ofList (text.takeWhile fun c => !endsWord c))

/-- A failure at a place where something else should stand. -/
def misplaced (reason : String) (text : List Char) : Fault :=
  .misplaced reason (nameAt text)

/-- Takes a word. -/
def takeOperand (setting : Setting) (text : List Char) : Except Fault (Word × List Char) :=
  match takeWord .extended (wordFuel text) setting (dropBlanks text) with
  | .error cut => .error (.cut cut)
  | .ok found => .ok found

/-- The test of two words that comes next, with what follows it. -/
def takeTest? (text : List Char) : Option (String × List Char) :=
  match dropBlanks text with
  | '<' :: rest => some ("<", rest)
  | '>' :: rest => some (">", rest)
  | text =>
    let word := text.takeWhile fun c => !endsWord c
    if binaryTests.contains (String.ofList word) then
      some (String.ofList word, text.drop word.length)
    else none

/-- Whether a text comes to the end of a test. -/
def endsTest (text : List Char) : Bool :=
  let text := dropBlanks text
  [['&', '&'], ['|', '|'], [')']].any (·.isPrefixOf text) ||
    (text.take 2 == [']', ']'] && (text[2]?.map endsWord).getD true)

mutual

/-- Reads conditions of which one must hold. -/
def readEither : (fuel : Nat) → List Char → Reading
  | 0, text => .error (misplaced "" text)
  | fuel + 1, text => do
    let (first, rest) ← readBoth fuel text
    match dropBlanks rest with
    | '|' :: '|' :: rest =>
      let (second, rest) ← readEither fuel rest
      return (.either first second, rest)
    | rest => return (first, rest)

/-- Reads conditions all of which must hold. -/
def readBoth : (fuel : Nat) → List Char → Reading
  | 0, text => .error (misplaced "" text)
  | fuel + 1, text => do
    let (first, rest) ← readOne fuel text
    match dropBlanks rest with
    | '&' :: '&' :: rest =>
      let (second, rest) ← readBoth fuel rest
      return (.both first second, rest)
    | rest => return (first, rest)

/-- Reads one condition. -/
def readOne : (fuel : Nat) → List Char → Reading
  | 0, text => .error (misplaced "" text)
  | fuel + 1, text =>
    match dropBlanks text with
    | '(' :: rest => do
      let (inner, rest) ← readEither fuel rest
      match dropBlanks rest with
      | ')' :: rest => return (inner, rest)
      | rest => .error (misplaced "expected \x60)'" rest)
    | text => do
      let (word, rest) ← takeOperand .words text
      match bareText? word with
      | some "!" =>
        let (inner, rest) ← readOne fuel rest
        return (.negated inner, rest)
      | some test =>
        if unaryTests.contains test ∧ !endsTest rest ∧ (takeTest? rest).isNone then
          let (operand, rest) ← takeOperand .words rest
          return (.unary test operand, rest)
        else if unaryTests.contains test ∧ endsTest rest then
          .error (misplaced
            ("unexpected argument \x60" ++ nameAt rest ++ "' to conditional unary operator") rest)
        else readTest word rest
      | none =>
        if word.isEmpty then
          .error (misplaced
            ("unexpected token \x60" ++ nameAt text ++ "' in conditional command") text)
        else readTest word rest
where
  /-- Reads what stands behind the first word of a test. -/
  readTest (word : Word) (rest : List Char) : Reading := do
    if endsTest rest then return (.unary "-n" word, rest)
    match takeTest? rest with
    | none =>
      let name := nameAt rest
      let lead := if name = "newline" then "unexpected token \x60newline', " else ""
      .error (.misplaced (lead ++ "conditional binary operator expected")
        (if name = "newline" then (bareText? word).getD "" else name))
    | some (test, behind) =>
      if endsTest behind then
        .error (misplaced
          ("unexpected argument \x60" ++ nameAt behind ++
            "' to conditional binary operator") behind)
      else
        let setting :=
          if test = "=~" then Setting.pattern true 0
          else if ["=", "==", "!="].contains test then .pattern false 0
          else .words
        let (operand, rest) ← takeOperand setting behind
        return (.binary test word operand, rest)

end

/-- Takes a condition from behind its opening brackets, with the closing ones. -/
def take (text : List Char) : Reading := do
  let (clause, rest) ← readEither (text.length + 1) text
  match dropBlanks rest with
  | ']' :: ']' :: rest => return (clause, rest)
  | rest => .error (misplaced "syntax error in conditional expression" rest)

end HistoryExpansion.Shell.Clause
