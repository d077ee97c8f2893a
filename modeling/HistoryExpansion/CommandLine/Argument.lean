/-!
# Arguments

The word of a command line that starts with a dash names options, by their full names behind two
dashes or by a letter behind one. A lone dash is a plain word, and two dashes alone end the options.
-/

namespace HistoryExpansion.CommandLine

/-- What a word of a command line is, before anything is known about its place. -/
inductive Argument where
  /-- Two dashes: every word behind them is plain. -/
  | endOfOptions
  /-- An option by its name, perhaps with a value behind an equals sign. -/
  | long (name : String) (value : Option String)
  /-- An option by its letter, with what follows the letter. -/
  | short (letter : Char) (rest : List Char)
  /-- A plain word. -/
  | word (text : String)
  deriving DecidableEq, Repr

namespace Argument

/-- An option by its name: the value, if there is one, stands behind the first equals sign. -/
def ofName (text : List Char) : Argument :=
  let name := String.ofList (text.takeWhile (· ≠ '='))
  match text.dropWhile (· ≠ '=') with
  | [] => long name none
  | _ :: value => long name (some (String.ofList value))

/-- What a word is. -/
def read (text : String) : Argument :=
  match text.toList with
  | ['-', '-'] => endOfOptions
  | '-' :: '-' :: name => ofName name
  | '-' :: letter :: rest => short letter rest
  | _ => word text

/-- The value that is attached to an option's letter, with or without an equals sign before it. -/
def attached? : (rest : List Char) → Option String
  | [] => none
  | '=' :: value => some (String.ofList value)
  | value => some (String.ofList value)

end Argument

end HistoryExpansion.CommandLine
