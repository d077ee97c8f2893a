import HistoryExpansion.Shell.Clause
import HistoryExpansion.Text.Blank

/-!
# Tokens of a command text

Words, operators and line breaks. Which words are reserved is left to the reader of commands. A text
that cannot be cut to its end gives the tokens up to that place and then says why, since the lines
before it are still run.
-/

namespace HistoryExpansion.Shell

/-- A piece of a command text. -/
inductive Token where
  /-- A word. -/
  | word (word : Word)
  /-- An operator. -/
  | operator (text : String)
  /-- A descriptor in front of a redirection. -/
  | descriptor (number : Nat)
  /-- A line break. -/
  | newline
  /-- An arithmetic expression between two parentheses. -/
  | arithmetic (text : String)
  /-- A condition between double brackets. -/
  | condition (clause : Clause)
  /-- A place where the text cannot be cut any further; what is wrong there may take more than one
  message. -/
  | unreadable (reasons : List String)
  deriving Repr

/-- A token with the line that it ends on: the one behind it for a line break. -/
structure Placed where
  /-- The line, counted from one. -/
  line : Nat
  /-- The token. -/
  token : Token
  deriving Repr

/-- The operators, longer ones first. -/
def operators : List String :=
  ["<<-", "&&", "||", ";;", "<<", ">>", "<&", ">&", "<>", ">|", "<", ">", "&", "|", ";", "(", ")"]

/-- The operators that only the extended dialect has, longer ones first. -/
def extendedOperators : List String :=
  ["&>>", "<<<", ";;&", "&>", "|&", ";&"]

/-- The operator that a text starts with, with what follows. -/
def operator? (dialect : Dialect) (text : List Char) : Option (String × List Char) :=
  let known := if dialect.isExtended then extendedOperators ++ operators else operators
  (known.find? fun operator => operator.toList.isPrefixOf text).map fun operator =>
    (operator, text.drop operator.length)

/-- The number of line breaks between a text and what is left of it. -/
def linesBetween (text rest : List Char) : Nat :=
  (text.take (text.length - rest.length)).count '\n'

/-- The text behind the lines that are joined to the one before. -/
def skipJoined : List Char → List Char
  | '\\' :: '\n' :: rest => skipJoined rest
  | rest => rest

/-! ## Texts that are read as input -/

/-- A text that is still to be read for a redirection. -/
structure Awaited where
  /-- The line that ends it. -/
  delimiter : String
  /-- Whether tabs at the start of its lines are dropped. -/
  dropTabs : Bool
  /-- Whether nothing in it is replaced. -/
  literal : Bool

/-- The text of a word without its quotes. -/
def unquotedText (word : Word) : String :=
  String.join (word.map fun
    | .text content _ => content
    | .parameter name _ _ _ _ => "$" ++ name
    | .output command _ => "$(" ++ command ++ ")"
    | _ => "")

/-- Whether any part of a word is quoted. -/
def hasQuotes (word : Word) : Bool :=
  word.any fun
    | .text _ quoted => quoted
    | _ => false

/-- Takes the lines up to the one that ends an awaited text. -/
def takeLinesTo (awaited : Awaited) : (fuel : Nat) → (found : List Char) → List Char →
    List Char × List Char
  | 0, found, text => (found, text)
  | fuel + 1, found, text =>
    if text.isEmpty then (found, [])
    else
      let line := text.takeWhile (· ≠ '\n')
      let rest := text.drop line.length
      let line := if awaited.dropTabs then line.dropWhile (· = '\t') else line
      if String.ofList line = awaited.delimiter then (found, rest.drop 1)
      else takeLinesTo awaited fuel (found ++ line ++ rest.take 1) (rest.drop 1)

/-- A text that a redirection reads as input. -/
structure HereText where
  /-- The text. -/
  word : Word
  /-- What is said of a text that no line ends, with the last line. -/
  warning : Option (Nat × String) := none

/-- What is said of an awaited text that no line ends, if none does. -/
def unendedWarning? (awaited : Awaited) (line : Nat) (text rest : List Char) :
    Option (Nat × String) :=
  let lines := (Text.splitAtEach '\n' text).map fun line =>
    if awaited.dropTabs then line.dropWhile (· = '\t') else line
  if !rest.isEmpty ∨ lines.contains awaited.delimiter.toList then none
  else
    some (line + linesBetween text [],
      "warning: here-document at line " ++ toString line ++ " delimited by end-of-file (wanted " ++
        betweenMarks awaited.delimiter ++ ")")

/-- Takes the texts that are awaited at the end of a line. -/
def takeAwaited (dialect : Dialect) : (line : Nat) → List Awaited → List Char →
    Except Cut (List HereText × List Char)
  | _, [], text => .ok ([], text)
  | line, awaited :: others, text => do
    let (body, rest) := takeLinesTo awaited (text.length + 1) [] text
    let word ←
      if awaited.literal then .ok [Piece.text (String.ofList body) true]
      else (takeWord dialect (wordFuel body) .whole body).map Prod.fst
    let (words, behind) ← takeAwaited dialect (line + linesBetween text rest) others rest
    return (⟨word, unendedWarning? awaited line text rest⟩ :: words, behind)

/-! ## Lists -/

/-- Takes the items of a list up to the parenthesis that closes it. -/
def takeItems : (fuel : Nat) → List Char → Except Cut (List Word × List Char)
  | 0, _ => .error .command
  | fuel + 1, text =>
    match Clause.dropBlanks text with
    | [] => .error .command
    | ')' :: rest => .ok ([], rest)
    | '#' :: rest => takeItems fuel (rest.dropWhile (· ≠ '\n'))
    | text => do
      let (word, rest) ← takeWord .extended (wordFuel text) .words text
      if word.isEmpty then .error .command
      else
        let (words, rest) ← takeItems fuel rest
        return (word :: words, rest)

/-- The name that a word gives a list to if a parenthesis follows, and whether the items are
added. -/
def listName? (word : Word) : Option (String × Bool) :=
  match (bareText? word).map (·.toList.reverse) with
  | some ('=' :: '+' :: name) =>
    if isName name.reverse then some (String.ofList name.reverse, true) else none
  | some ('=' :: name) =>
    if isName name.reverse then some (String.ofList name.reverse, false) else none
  | _ => none

/-! ## Cutting -/

/-- The tokens of a text, and the texts that redirections read as input, in order. -/
structure Tokens where
  /-- The tokens. -/
  tokens : List Placed := []
  /-- The texts. -/
  texts : List HereText := []

/-- Where cutting stands. -/
structure Cutting where
  /-- The line. -/
  line : Nat
  /-- Whether the operator just before awaits a text, and if so, whether tabs are dropped from it.
  -/
  awaits : Option Bool := none
  /-- The texts that are to be read at the end of the line. -/
  awaited : List Awaited := []
  /-- Whether a command may start here. -/
  starts : Bool := true
  /-- Whether the word just before is the start of a loop. -/
  counts : Bool := false

/-- The words behind which a command starts. -/
def leading : List String :=
  ["if", "then", "elif", "else", "while", "until", "do", "!", "\x7b", "time"]

/-- Cuts a text into tokens. -/
def cutTokens (dialect : Dialect) : (fuel : Nat) → Cutting → List Char → Tokens
  | 0, place, _ => { tokens := [⟨place.line, .unreadable ["too long"]⟩] }
  | fuel + 1, place, text =>
    let line := place.line
    let after (token : Token) (behind : Tokens) : Tokens :=
      { behind with tokens := ⟨line, token⟩ :: behind.tokens }
    let stop (reasons : List String) (rest : List Char) : Tokens :=
      { tokens := [⟨line + linesBetween text rest, .unreadable reasons⟩] }
    let cutShort (cut : Cut) (text : List Char) : Tokens :=
      stop [cut.message dialect] (if cut.isNoticedAtStart dialect then text else [])
    match text with
    | [] =>
      match takeAwaited dialect line place.awaited [] with
      | .error cut => cutShort cut []
      | .ok (texts, _) => { texts := texts }
    | ' ' :: rest => cutTokens dialect fuel place rest
    | '\t' :: rest => cutTokens dialect fuel place rest
    | '\\' :: '\n' :: rest => cutTokens dialect fuel { place with line := line + 1 } rest
    | '#' :: rest => cutTokens dialect fuel place (rest.dropWhile (· ≠ '\n'))
    | '\n' :: rest =>
      match takeAwaited dialect line place.awaited rest with
      | .error cut => { tokens := [⟨line, .unreadable [cut.message dialect]⟩] }
      | .ok (texts, behind) =>
        let found :=
          cutTokens dialect fuel { line := line + 1 + linesBetween rest behind } behind
        { tokens := ⟨line + 1, .newline⟩ :: found.tokens, texts := texts ++ found.texts }
    | text =>
      let word (_ : Unit) : Tokens :=
        match takeWord dialect (wordFuel text) .words text with
        | .error cut => cutShort cut text
        | .ok (word, rest) =>
          let found : Except Cut (Word × List Char) :=
            match dialect, listName? word, rest with
            | .extended, some (name, adds), '(' :: rest =>
              (takeItems (rest.length + 1) rest).map fun (words, rest) =>
                ([.items name adds words], rest)
            | _, _, rest => .ok (word, rest)
          match found with
          | .error cut => cutShort cut text
          | .ok (word, rest) =>
            let awaited :=
              match place.awaits with
              | none => place.awaited
              | some dropTabs => place.awaited ++ [⟨unquotedText word, dropTabs, hasQuotes word⟩]
            let rest := skipJoined rest
            let line := line + linesBetween text rest
            let bare := if place.awaits.isNone then bareText? word else none
            let starts := place.starts && (bare.map leading.contains).getD false
            let counts := place.starts && bare == some "for"
            let behind := cutTokens dialect fuel ⟨line, none, awaited, starts, counts⟩ rest
            { behind with tokens := ⟨line, .word word⟩ :: behind.tokens }
      let operator (_ : Unit) : Tokens :=
        match operator? dialect text with
        | some (operator, rest) =>
          let awaits :=
            if operator = "<<" then some false else if operator = "<<-" then some true else none
          let starts := !(operator.toList.any fun c => c == '<' || c == '>')
          after (.operator operator)
            (cutTokens dialect fuel ⟨line, awaits, place.awaited, starts, false⟩ rest)
        | none =>
          let described (c sign : Char) (rest : List Char) : Tokens :=
            after (.descriptor (decimal [c]))
              (cutTokens dialect fuel { place with awaits := none } (sign :: rest))
          match text with
          | c :: '<' :: rest => if isDigit c then described c '<' rest else word ()
          | c :: '>' :: rest => if isDigit c then described c '>' rest else word ()
          | _ => word ()
      match dialect, text with
      | .extended, '<' :: '(' :: _ => word ()
      | .extended, '>' :: '(' :: _ => word ()
      | .extended, '(' :: '(' :: rest =>
        let arithmetic :=
          if place.starts || place.counts then takeArithmetic 0 [] rest else .error .arithmetic
        match arithmetic with
        | .error _ => operator ()
        | .ok (expression, behind) =>
          let line := line + linesBetween rest behind
          let behind :=
            cutTokens dialect fuel ⟨line, none, place.awaited, place.counts, false⟩ behind
          { behind with
            tokens := ⟨line, .arithmetic (String.ofList expression)⟩ :: behind.tokens }
      | .extended, '[' :: '[' :: c :: rest =>
        if place.starts && (c == ' ' || c == '\t' || c == '\n') then
          match Clause.take (c :: rest) with
          | .error (.cut cut) => cutShort cut text
          | .error (.misplaced reason near) =>
            stop [reason, "syntax error near " ++ betweenMarks near] text
          | .ok (clause, behind) =>
            let line := line + linesBetween rest behind
            let behind := cutTokens dialect fuel ⟨line, none, place.awaited, false, false⟩ behind
            { behind with tokens := ⟨line, .condition clause⟩ :: behind.tokens }
        else operator ()
      | _, _ => operator ()

/-- Cuts a command text into tokens. -/
def tokens (dialect : Dialect) (text : List Char) : Tokens :=
  cutTokens dialect (text.length + 2) { line := 1 } text

end HistoryExpansion.Shell
