import HistoryExpansion.Shell.Regex.Reader
import HistoryExpansion.Shell.Word

/-!
# Scripts of the stream editor

A script is a list of instructions, each with the lines that it is for. Blocks and jumps are kept as
the number of the instruction to go on with, so that a script is run by counting on in one list.
-/

namespace HistoryExpansion.Shell.Utility.Sed

/-- An expression with the way it is matched. Without an expression the last one that was used is
meant. -/
structure Pattern where
  /-- The expression. -/
  regex : Option Regex
  /-- How it is matched. -/
  options : Regex.Options
  deriving Repr

/-- A single line, or a line of some kind. -/
inductive Place where
  /-- The line of a number. -/
  | line (number : Nat)
  /-- Every so many lines from a first one on. -/
  | steps (first step : Nat)
  /-- The last line. -/
  | last
  /-- A line with a match. -/
  | found (pattern : Pattern)
  deriving Repr

/-- The end of a range of lines. -/
inductive Finish where
  /-- A line. -/
  | at (place : Place)
  /-- So many lines further on. -/
  | further (count : Nat)
  /-- The next line whose number is a multiple. -/
  | multiple (count : Nat)
  deriving Repr

/-- The lines that an instruction is for. -/
inductive Scope where
  /-- All lines. -/
  | all
  /-- Some lines. -/
  | at (place : Place)
  /-- Lines from one up to another. -/
  | between (start : Place) (finish : Finish)
  deriving Repr

/-- A change of case in a replacement. -/
inductive CaseChange where
  /-- Capital letters from here on. -/
  | upper
  /-- Small letters from here on. -/
  | lower
  /-- A capital letter next. -/
  | upperNext
  /-- A small letter next. -/
  | lowerNext
  /-- Letters as they are from here on. -/
  | stop
  deriving DecidableEq, Repr

/-- A part of a replacement. -/
inductive Part where
  /-- A character. -/
  | char (c : Char)
  /-- The match, for the number zero, or a part of it. -/
  | group (number : Nat)
  /-- A change of case. -/
  | case (change : CaseChange)
  deriving DecidableEq, Repr

/-- A substitution. -/
structure Substitution where
  /-- What is replaced. -/
  pattern : Pattern
  /-- What takes its place. -/
  parts : List Part
  /-- The number of the first match that is replaced. -/
  first : Nat := 1
  /-- Whether all further matches are. -/
  further : Bool := false
  /-- Whether the line is printed if there was a match. -/
  prints : Bool := false
  /-- The file that the line is written to if there was a match. -/
  file : Option String := none
  deriving Repr

/-- When a jump is done. -/
inductive Occasion where
  /-- Always. -/
  | always
  /-- After a substitution. -/
  | changed
  /-- Unless there was a substitution. -/
  | unchanged
  deriving DecidableEq, Repr

/-- What an instruction does. -/
inductive Action where
  /-- Nothing. -/
  | nothing
  /-- Goes on behind the block unless the line is meant. -/
  | block (behind : Nat)
  /-- Prints the number of the line. -/
  | number
  /-- Prints a text behind the line. -/
  | append (text : List Char)
  /-- Prints a text before the line. -/
  | insert (text : List Char)
  /-- Puts a text in the place of the lines. -/
  | change (text : List Char)
  /-- Goes on elsewhere; without a place, with the next line. -/
  | jump (occasion : Occasion) (target : Option Nat)
  /-- Drops the line. -/
  | delete
  /-- Drops the first line of what is at hand. -/
  | deleteFirst
  /-- Keeps the line, in addition to what was kept or not. -/
  | keep (adds : Bool)
  /-- Takes what was kept, in addition to the line or not. -/
  | recall (adds : Bool)
  /-- Exchanges the line and what was kept. -/
  | exchange
  /-- Prints the line so that every character is seen. -/
  | list (width : Option Nat)
  /-- Goes on to the next line at once. -/
  | next
  /-- Adds the next line. -/
  | nextAdded
  /-- Prints what is at hand. -/
  | print
  /-- Prints the first line of what is at hand. -/
  | printFirst
  /-- Ends, after the line is printed or not. -/
  | quit (code : Nat) (silent : Bool)
  /-- Prints the content of a file behind the line. -/
  | readFile (name : String)
  /-- Prints the next line of a file behind the line. -/
  | readLine (name : String)
  /-- Replaces matches. -/
  | substitute (substitution : Substitution)
  /-- Writes what is at hand, or its first line, to a file. -/
  | write (name : String) (firstOnly : Bool)
  /-- Replaces characters. -/
  | exchangeChars (pairs : List (Char × Char))
  /-- Prints the name of the input. -/
  | inputName
  /-- Empties what is at hand. -/
  | clear
  deriving Repr

/-- An instruction. -/
structure Instruction where
  /-- The lines that it is for. -/
  scope : Scope
  /-- Whether it is for all other lines. -/
  negated : Bool
  /-- What it does. -/
  action : Action
  deriving Repr

end HistoryExpansion.Shell.Utility.Sed
