import HistoryExpansion.Shell.Program.Awk.Value
import HistoryExpansion.Shell.Regex.Reader

/-!
# Programs of patterns and actions

A program is a list of rules and functions. A rule says for which records of the input an action is
done; an action is made of statements, and statements of expressions.
-/

namespace HistoryExpansion.Shell.Awk

/-- An operation on two numbers. -/
inductive Operation where
  /-- The sum. -/
  | plus
  /-- The difference. -/
  | minus
  /-- The product. -/
  | times
  /-- The quotient. -/
  | divide
  /-- What a division leaves. -/
  | modulo
  /-- The power. -/
  | power
  deriving DecidableEq, Repr

/-- A comparison. -/
inductive Relation where
  /-- Less. -/
  | less
  /-- Less or equal. -/
  | atMost
  /-- Equal. -/
  | equal
  /-- Not equal. -/
  | different
  /-- Greater. -/
  | greater
  /-- Greater or equal. -/
  | atLeast
  deriving DecidableEq, Repr

/-- Whether a comparison holds of two values that stand in an order, or in none. -/
def Relation.holds : Relation → Option Ordering → Bool
  | less, order => order == some .lt
  | atMost, order => order == some .lt || order == some .eq
  | equal, order => order == some .eq
  | different, order => order != some .eq
  | greater, order => order == some .gt
  | atLeast, order => order == some .gt || order == some .eq

/-- What records can be read from one by one. -/
inductive Origin where
  /-- The input of the program. -/
  | input
  /-- A file. -/
  | file
  /-- The output of a command. -/
  | command
  deriving DecidableEq, Repr

/-- What is written to apart from the output. -/
inductive Destination where
  /-- A file that is emptied first. -/
  | file
  /-- The end of a file. -/
  | fileEnd
  /-- The input of a command. -/
  | command
  deriving DecidableEq, Repr

mutual

/-- Something that can be set. -/
inductive Place where
  /-- A variable. -/
  | named (name : String)
  /-- A field, by its number. -/
  | field (index : Expression)
  /-- A place of a table, by its keys. -/
  | item (table : String) (keys : List Expression)

/-- An expression. -/
inductive Expression where
  /-- A number. -/
  | number (value : Float)
  /-- A text. -/
  | text (value : List Char)
  /-- Whether the record matches a regular expression. -/
  | regex (regex : Regex)
  /-- What a place holds. -/
  | place (place : Place)
  /-- A place after something was set in it, or after an operation on what it held. -/
  | set (place : Place) (operation : Option Operation) (value : Expression)
  /-- A place with one more or less; with `first` its value after that. -/
  | step (place : Place) (up first : Bool)
  /-- One of two expressions. -/
  | choice (condition yes no : Expression)
  /-- Whether both of two expressions hold. -/
  | both (first second : Expression)
  /-- Whether one of two expressions holds. -/
  | either (first second : Expression)
  /-- Whether an expression does not hold. -/
  | not (body : Expression)
  /-- Whether a table has a place for some keys. -/
  | within (keys : List Expression) (table : String)
  /-- Whether a text matches, or does not match. -/
  | matching (negated : Bool) (text pattern : Expression)
  /-- A comparison. -/
  | compare (relation : Relation) (first second : Expression)
  /-- Two texts, one behind the other. -/
  | joined (first second : Expression)
  /-- An operation. -/
  | compute (operation : Operation) (first second : Expression)
  /-- A number with the other sign. -/
  | negative (body : Expression)
  /-- A number. -/
  | positive (body : Expression)
  /-- A call of a function of the program. -/
  | call (name : String) (arguments : List Expression)
  /-- A call of a function that is always there. -/
  | known (name : String) (arguments : List Expression)
  /-- The next record of something, put into a place or in the place of the record at hand. -/
  | getline (origin : Origin) (source : Option Expression) (target : Option Place)
  /-- An expression in parentheses, or several that are keys. -/
  | several (members : List Expression)

end

/-- A statement. -/
inductive Statement where
  /-- An expression. -/
  | expression (expression : Expression)
  /-- Shows some values. -/
  | print (values : List Expression) (target : Option (Destination × Expression))
  /-- Shows some values in a format. -/
  | format (values : List Expression) (target : Option (Destination × Expression))
  /-- One statement after another. -/
  | block (body : List Statement)
  /-- A statement for the case that an expression holds, and one for the other case. -/
  | branch (condition : Expression) (yes no : Statement)
  /-- Goes on as long as an expression holds. -/
  | loop (condition : Expression) (body : Statement)
  /-- Does something and goes on as long as an expression holds. -/
  | loopAfter (body : Statement) (condition : Expression)
  /-- Goes on as long as an expression holds, with something to do at the start and each time. -/
  | count (start : Statement) (condition : Option Expression) (step body : Statement)
  /-- Goes through the keys of a table. -/
  | each (name table : String) (body : Statement)
  /-- Ends a loop. -/
  | leave
  /-- Goes on with a loop. -/
  | goOn
  /-- Goes on with the next record. -/
  | next
  /-- Goes on with the next file. -/
  | nextFile
  /-- Ends the program. -/
  | exit (status : Option Expression)
  /-- Ends a function. -/
  | answer (value : Option Expression)
  /-- Takes a place out of a table, or all of them. -/
  | erase (table : String) (keys : Option (List Expression))

/-- When an action is done. -/
inductive Pattern where
  /-- Before all records. -/
  | start
  /-- Behind all records. -/
  | stop
  /-- For each record. -/
  | always
  /-- For the records for which an expression holds. -/
  | when (condition : Expression)
  /-- From a record for which one expression holds to one for which another one holds. -/
  | between (first last : Expression)

/-- A rule. -/
structure Rule where
  /-- When its action is done. -/
  pattern : Pattern
  /-- Its action. Without one the record is shown. -/
  action : Statement

/-- A function. -/
structure Function where
  /-- Its name. -/
  name : String
  /-- The names of its arguments. -/
  parameters : List String
  /-- What it does. -/
  body : Statement

/-- A program. -/
structure Program where
  /-- Its rules. -/
  rules : List Rule := []
  /-- Its functions. -/
  functions : List Function := []

/-- What is wrong with the text of a program. -/
inductive Fault where
  /-- A sign stands where it cannot. -/
  | misplaced (text : String)
  /-- A text is not closed. -/
  | openText (text : String)
  /-- A regular expression is not closed. -/
  | openRegex (text : String)
  /-- A character means nothing. -/
  | unknownCharacter (c : Char)
  /-- A brace is closed that was not opened. -/
  | extraBrace
  /-- A parenthesis is closed that was not opened. -/
  | extraParenthesis
  /-- A parenthesis is not closed. -/
  | openParenthesis (text : String)
  /-- A brace is not closed. -/
  | openBrace
  /-- A regular expression cannot be read. -/
  | badRegex (text reason : String)
  /-- A table is used as a variable. -/
  | noVariable (name : String)
  /-- A variable is used as a table. -/
  | noTable (name : String)
  /-- A loop is to be ended that is none. -/
  | noLoop (word : String)
  /-- Something is done where there is no record. -/
  | noRecord (word : String)
  /-- A function is to be ended where there is none. -/
  | noFunction
  /-- A function is there twice. -/
  | again (name : String)
  /-- A function is called that is not there. -/
  | undefined (name : String)
  /-- A function has too many or too few arguments. -/
  | wrongArguments (name : String)
  deriving DecidableEq, Repr

/-- The wording of a fault. -/
def Fault.message : Fault → String
  | misplaced text => "syntax error at or near " ++ text
  | openText text => "runaway string constant " ++ text ++ " ..."
  | openRegex text => "runaway regular expression " ++ text ++ " ..."
  | unknownCharacter c => "unexpected character '" ++ String.ofList [c] ++ "'"
  | extraBrace => "extra '\x7d'"
  | extraParenthesis => "extra ')'"
  | openParenthesis text => "missing ) near " ++ text
  | openBrace => "missing \x7d near end of file"
  | badRegex text reason => "regular expression compile failed (" ++ reason ++ ")\n" ++ text
  | noVariable name => "illegal reference to array " ++ name
  | noTable name => "illegal reference to variable " ++ name
  | noLoop word => word ++ " statement outside of loop"
  | noRecord word => "improper use of " ++ word
  | noFunction => "return outside function body"
  | again name => "redefinition of " ++ name
  | undefined name => "function " ++ name ++ " never defined"
  | wrongArguments name => "wrong number of arguments in call to " ++ name

/-! ## Regular expressions -/

/-- The text of a regular expression, in which a backslash before a character that it gives no other
meaning is left out, and a parenthesis that is closed without being opened stands for itself. -/
def plainEscapes : (bracket : Bool) → (depth : Nat) → List Char → List Char
  | _, _, [] => []
  | true, depth, '\\' :: c :: rest => '\\' :: c :: plainEscapes true depth rest
  | true, depth, ']' :: rest => ']' :: plainEscapes false depth rest
  | true, depth, c :: rest => c :: plainEscapes true depth rest
  | false, depth, '\\' :: c :: rest =>
    if "ntrfva\\^$.[]|()*+?\x7b\x7d".toList.contains c then
      '\\' :: c :: plainEscapes false depth rest
    else if c = 'b' then '\x08' :: plainEscapes false depth rest
    else c :: plainEscapes false depth rest
  | false, depth, '[' :: '^' :: ']' :: rest => '[' :: '^' :: ']' :: plainEscapes true depth rest
  | false, depth, '[' :: ']' :: rest => '[' :: ']' :: plainEscapes true depth rest
  | false, depth, '[' :: '[' :: ':' :: rest => '[' :: '[' :: ':' :: plainEscapes true depth rest
  | false, depth, '(' :: rest => '(' :: plainEscapes false (depth + 1) rest
  | false, 0, ')' :: rest => '\\' :: ')' :: plainEscapes false 0 rest
  | false, depth + 1, ')' :: rest => ')' :: plainEscapes false depth rest
  | false, depth, c :: rest => c :: plainEscapes (c == '[') depth rest

/-- How regular expressions are written. -/
def regexStyle : Regex.Style where
  extended := true
  controls := true
  inBrackets := true

/-- Why a regular expression cannot be read. -/
def regexReason : Regex.Fault → String
  | .openBracket => "missing ']'"
  | .openParenthesis => "missing ')'"
  | .nothingRepeated => "missing operand"
  | .badClass => "syntax error ^* or ^+"
  | fault => fault.message

/-- Reads a regular expression. -/
def regexOf (text : List Char) : Except Fault Regex :=
  let failed (reason : String) : Except Fault Regex :=
    .error (.badRegex (String.ofList text) reason)
  if text.head?.any "*+?".toList.contains then failed "missing operand"
  else
    match Regex.parse regexStyle (plainEscapes false 0 text) with
    | .ok regex => .ok regex
    | .error fault => failed (regexReason fault)

end HistoryExpansion.Shell.Awk
