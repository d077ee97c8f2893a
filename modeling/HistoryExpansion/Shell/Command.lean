/-!
# Commands of the shell

The trees that the text of a command is read into. A word is a list of pieces, some of which are
replaced by other text when the command is run. A command inside a word is kept as the text it was
written in.

There are two dialects of the language. The extended one has all of the plain one, and beside it
lists, conditions between double brackets, arithmetic as a command, and more ways to change the
value of a parameter.
-/

namespace HistoryExpansion.Shell

/-- A dialect of the shell's language. -/
inductive Dialect where
  /-- The language that every shell knows. -/
  | plain
  /-- The language with lists, conditions and arithmetic as commands. -/
  | extended
  deriving DecidableEq, Repr

/-- Whether a dialect is the extended one. -/
def Dialect.isExtended : Dialect → Bool
  | plain => false
  | extended => true

/-- Which matches of a pattern within a value are replaced. -/
inductive Replacing where
  /-- The first one. -/
  | first
  /-- All of them. -/
  | all
  /-- One at the start of the value. -/
  | atStart
  /-- One at the end of the value. -/
  | atEnd
  deriving DecidableEq, Repr

/-- What is done to the value of a parameter, apart from taking it as it is. -/
inductive Treatment where
  /-- The value alone. -/
  | plain
  /-- The number of its characters. -/
  | length
  /-- The word in its place if it is unset, or with the flag also if it is empty. -/
  | orElse (orEmpty : Bool)
  /-- The same, and the word becomes the value. -/
  | assign (orEmpty : Bool)
  /-- A failure with the word as its text if it is unset, or with the flag also if it is empty. -/
  | demand (orEmpty : Bool)
  /-- The word if it is set, and with the flag only if it is not empty. -/
  | instead (unlessEmpty : Bool)
  /-- The value without a match of the word at its start. -/
  | cutStart (longest : Bool)
  /-- The value without a match of the word at its end. -/
  | cutEnd (longest : Bool)
  /-- The part of the value from a place on, of a length if there is a second word. -/
  | slice
  /-- The value with the second word in the place of matches of the first. -/
  | replace (which : Replacing)
  /-- The value in capital or in small letters, as a whole or its first letter. -/
  | letters (capital whole : Bool)
  /-- The value of the parameter that the value names. -/
  | indirect
  /-- The indices at which a list has items. -/
  | indices
  /-- The names of the variables that start with the name. -/
  | names
  /-- The value as a letter says: in quotes, in capital letters and so on. -/
  | shown (letter : Char)
  /-- What is no treatment; the text is what stands between the braces. -/
  | bad (text : String)
  deriving DecidableEq, Repr

/-- A part of a word. -/
inductive Piece where
  /-- Characters that stand for themselves. -/
  | text (content : String) (quoted : Bool)
  /-- The value of a parameter, or of an item of a list. -/
  | parameter (name : String) (index : Option (List Piece)) (treatment : Treatment)
      (words : List (List Piece)) (quoted : Bool)
  /-- The output of a command. -/
  | output (command : String) (quoted : Bool)
  /-- The value of an arithmetic expression. -/
  | arithmetic (expression : List Piece) (quoted : Bool)
  /-- The path of a file that holds the output of a command, or whose content is its input. -/
  | channel (reads : Bool) (command : String)
  /-- The items of a list that a name is given, or given in addition. -/
  | items (name : String) (adds : Bool) (words : List (List Piece))
  deriving Repr

/-- A word: its parts in order. -/
abbrev Word := List Piece

/-- The text of a word without quotes and replacements. -/
def bareText? (word : Word) : Option String :=
  match word with
  | [.text content false] => some content
  | _ => none

/-- What a redirection does. -/
inductive Redirection where
  /-- Reads from a file. -/
  | input
  /-- Writes to a file, whose content goes. -/
  | output
  /-- Writes to a file even if that is not to be overwritten. -/
  | force
  /-- Writes at the end of a file. -/
  | append
  /-- Reads and writes a file. -/
  | update
  /-- Stands for another descriptor, or closes this one. -/
  | duplicate
  /-- Reads the text that is the word. -/
  | here
  /-- Reads the word as a line. -/
  | line
  /-- Writes the output and the messages to a file, at its end or in the place of its content. -/
  | both (atEnd : Bool)
  deriving DecidableEq, Repr

/-- A redirection of a descriptor. -/
structure Redirect where
  /-- The descriptor. -/
  descriptor : Nat
  /-- What is done to it. -/
  kind : Redirection
  /-- The file, the other descriptor or the text. -/
  target : Word
  deriving Repr

/-- An assignment in front of a command. -/
structure Assignment where
  /-- The name of the variable. -/
  name : String
  /-- The index of the item that is meant, if the variable is a list. -/
  index : Option Word := none
  /-- Whether the value is added to the one before. -/
  adds : Bool := false
  /-- The value. -/
  value : Word
  deriving Repr

/-- A condition between double brackets. -/
inductive Clause where
  /-- A test of one word. -/
  | unary (test : String) (word : Word)
  /-- A test of two words. -/
  | binary (test : String) (left right : Word)
  /-- What holds if another condition does not. -/
  | negated (clause : Clause)
  /-- Two conditions both of which must hold. -/
  | both (first second : Clause)
  /-- Two conditions of which one must hold. -/
  | either (first second : Clause)
  deriving Repr

/-- How the commands of a case end. -/
inductive CaseEnd where
  /-- The choice is done. -/
  | done
  /-- The commands of the next case are run too. -/
  | fallThrough
  /-- The next cases are tried too. -/
  | goOn
  deriving DecidableEq, Repr

/-- A command. -/
inductive Command where
  /-- Assignments, the words of a call and redirections, with the line they start on. -/
  | simple (line : Nat) (assignments : List Assignment) (words : List Word)
      (redirects : List Redirect)
  /-- Commands whose outputs are the inputs of the next ones. -/
  | pipeline (commands : List Command)
  /-- A command whose success is failure. -/
  | negated (command : Command)
  /-- A command that is run if the one before it succeeds. -/
  | both (first second : Command)
  /-- A command that is run if the one before it fails. -/
  | either (first second : Command)
  /-- Commands that are run one after the other. -/
  | sequence (commands : List Command)
  /-- A command that is not waited for. -/
  | background (command : Command)
  /-- A command that is run in a shell of its own. -/
  | subshell (body : Command)
  /-- A choice. -/
  | conditional (condition success failure : Command)
  /-- A command that is repeated while, or until, a condition holds. -/
  | loop (untilHolds : Bool) (condition body : Command)
  /-- A command that is repeated for each of some words, or for each argument. -/
  | forEach (name : String) (words : Option (List Word)) (body : Command)
  /-- A command that is repeated as long as an expression is not zero; one expression comes first,
  and another after each time. -/
  | counted (line : Nat) (first condition next : Word) (body : Command)
  /-- The commands of the first patterns that a word matches. -/
  | choice (word : Word) (cases : List (List Word × Command × CaseEnd))
  /-- The definition of a function. -/
  | function (name : String) (body : Command)
  /-- A command with redirections. -/
  | redirected (line : Nat) (command : Command) (redirects : List Redirect)
  /-- A condition, which is success if it holds. -/
  | condition (line : Nat) (clause : Clause)
  /-- An arithmetic expression, which is success if it is not zero. -/
  | arithmetic (line : Nat) (expression : Word)
  deriving Repr

end HistoryExpansion.Shell
