import HistoryExpansion.Shell.Pattern

/-!
# Regular expressions

A `Regex` is matched against a part of a text. Of all matches that start earliest the longest one
counts, and of those the one in which repetitions on the left go on for longer. A character of a
text is an octet, as for patterns.
-/

namespace HistoryExpansion.Shell

/-- A place that takes up no character. -/
inductive Border where
  /-- The start of the text, or of a line of it where lines count. -/
  | lineStart
  /-- The end of the text, or of a line of it where lines count. -/
  | lineEnd
  /-- The start of the text. -/
  | textStart
  /-- The end of the text. -/
  | textEnd
  /-- The start of a word. -/
  | wordStart
  /-- The end of a word. -/
  | wordEnd
  /-- The start or the end of a word. -/
  | wordEdge
  /-- Neither the start nor the end of a word. -/
  | noWordEdge
  deriving DecidableEq, Repr

/-- A regular expression. -/
inductive Regex where
  /-- No character. -/
  | nothing
  /-- One character of some ranges, or with the flag one of none of them. -/
  | one (excluded : Bool) (ranges : List (Char × Char))
  /-- A place between characters. -/
  | at (border : Border)
  /-- A part whose match is noted under a number. -/
  | group (number : Nat) (body : Regex)
  /-- The text that a part was last matched to. -/
  | again (number : Nat)
  /-- One part and then another. -/
  | both (first second : Regex)
  /-- One part or another. -/
  | either (first second : Regex)
  /-- A part any number of times. -/
  | many (body : Regex)
  deriving DecidableEq, Repr

namespace Regex

/-- How a regular expression is matched. -/
structure Options where
  /-- Whether small and capital letters are the same. -/
  fold : Bool := false
  /-- Whether the lines of the text have starts and ends of their own. -/
  lines : Bool := false
  deriving DecidableEq, Repr

/-- A place in a text on the way of a match. -/
structure Cursor where
  /-- The number of characters before it. -/
  index : Nat := 0
  /-- The character before it. -/
  before : Option Char := none
  /-- The characters behind it. -/
  rest : List Char
  /-- The texts of the parts that were matched, latest first. -/
  groups : List (Nat × List Char) := []

/-- The place behind the next character. -/
def Cursor.next (cursor : Cursor) : Cursor :=
  { cursor with
    index := cursor.index + 1, before := cursor.rest.head?, rest := cursor.rest.tail }

/-- The place so many characters further on. -/
def Cursor.skip : (count : Nat) → Cursor → Cursor
  | 0, cursor => cursor
  | count + 1, cursor => skip count cursor.next

/-- The characters between a place and a later one. -/
def Cursor.textTo (cursor later : Cursor) : List Char :=
  cursor.rest.take (later.index - cursor.index)

/-- A character of a word. -/
def isWordChar (c : Char) : Bool :=
  ('a' ≤ c && c ≤ 'z') || ('A' ≤ c && c ≤ 'Z') || ('0' ≤ c && c ≤ '9') || c == '_'

/-- Whether a character is one of some ranges. -/
def isAmong (ranges : List (Char × Char)) (c : Char) : Bool :=
  ranges.any fun (low, high) => low ≤ c && c ≤ high

/-- Whether a character fits an element that stands for one. -/
def fits (options : Options) (excluded : Bool) (ranges : List (Char × Char)) (c : Char) : Bool :=
  let among := isAmong ranges c ||
    (options.fold && (isAmong ranges c.toLower || isAmong ranges c.toUpper))
  among != excluded

/-- Whether a place is a border. -/
def isAt (options : Options) (cursor : Cursor) (border : Border) : Bool :=
  let wordBefore := (cursor.before.map isWordChar).getD false
  let wordBehind := (cursor.rest.head?.map isWordChar).getD false
  match border with
  | .lineStart => cursor.before.isNone || (options.lines && cursor.before == some '\n')
  | .lineEnd => cursor.rest.isEmpty || (options.lines && cursor.rest.head? == some '\n')
  | .textStart => cursor.before.isNone
  | .textEnd => cursor.rest.isEmpty
  | .wordStart => !wordBefore && wordBehind
  | .wordEnd => wordBefore && !wordBehind
  | .wordEdge => wordBefore != wordBehind
  | .noWordEdge => wordBefore == wordBehind

/-- Places without those that come again. -/
def distinct (cursors : List Cursor) : List Cursor :=
  cursors.foldr
    (fun cursor later => cursor :: later.filter fun other => other.index ≠ cursor.index) []

/-- Whether characters come next, letters being the same or not. -/
def startsWith (options : Options) : (wanted : List Char) → (text : List Char) → Bool
  | [], _ => true
  | _, [] => false
  | a :: wanted, b :: text =>
    (a == b || (options.fold && a.toLower == b.toLower)) && startsWith options wanted text

/-- The places that a step leads to when it is taken again and again, farthest ones first. No place
that was seen is gone to again. -/
def closure (step : Cursor → List Cursor) : (fuel : Nat) → (seen : List Nat) → Cursor →
    List Nat × List Cursor
  | 0, seen, cursor => (seen, [cursor])
  | fuel + 1, seen, cursor =>
    let (seen, found) := (step cursor).foldl
      (fun (seen, found) (next : Cursor) =>
        if seen.contains next.index then (seen, found)
        else
          let (seen, more) := closure step fuel (next.index :: seen) next
          (seen, found ++ more))
      (seen, [])
    (seen, found ++ [cursor])

/-- The places behind the matches of an expression from a place on, preferred ones first. -/
def run (options : Options) : Regex → Cursor → List Cursor
  | .nothing, cursor => [cursor]
  | .one excluded ranges, cursor =>
    match cursor.rest with
    | [] => []
    | c :: _ => if fits options excluded ranges c then [cursor.next] else []
  | .at border, cursor => if isAt options cursor border then [cursor] else []
  | .group number body, cursor =>
    (run options body cursor).map fun (later : Cursor) =>
      { later with groups := (number, cursor.textTo later) :: later.groups }
  | .again number, cursor =>
    match cursor.groups.lookup number with
    | none => []
    | some text => if startsWith options text cursor.rest then [cursor.skip text.length] else []
  | .both first second, cursor =>
    distinct ((run options first cursor).flatMap (run options second))
  | .either first second, cursor =>
    distinct (run options first cursor ++ run options second cursor)
  | .many (.one excluded ranges), cursor =>
    let count := (cursor.rest.takeWhile (fits options excluded ranges)).length
    ((List.range (count + 1)).foldl
      (fun (found, (last : Cursor)) _ => (last :: found, last.next)) ([], cursor)).1
  | .many body, cursor =>
    (closure (run options body) (cursor.rest.length + 1) [cursor.index] cursor).2

/-- A match within a text. -/
structure Match where
  /-- The characters before it. -/
  skipped : List Char
  /-- The characters of it. -/
  text : List Char
  /-- The texts of its parts, by their numbers. -/
  groups : List (Nat × List Char)
  /-- The characters behind it. -/
  rest : List Char

/-- The end of the longest match that starts at a place and is accepted. -/
def longest? (options : Options) (regex : Regex) (accepts : Cursor → Cursor → Bool)
    (cursor : Cursor) : Option Cursor :=
  ((run options regex cursor).filter (accepts cursor)).foldl
    (fun best (found : Cursor) =>
      match best with
      | none => some found
      | some (best : Cursor) => if found.index > best.index then some found else some best)
    none

/-- The accepted match that starts earliest, at one of so many places. -/
def findFrom (options : Options) (regex : Regex) (accepts : Cursor → Cursor → Bool) :
    (places : Nat) → (skipped : List Char) → Cursor → Option Match
  | 0, _, _ => none
  | places + 1, skipped, cursor =>
    match longest? options regex accepts cursor with
    | some later => some ⟨skipped.reverse, cursor.textTo later, later.groups, later.rest⟩
    | none =>
      match cursor.rest with
      | [] => none
      | c :: _ => findFrom options regex accepts places (c :: skipped) cursor.next

/-- The earliest match within a text that is accepted, behind a character if there is one. -/
def findAccepted? (regex : Regex) (options : Options) (accepts : Cursor → Cursor → Bool)
    (before : Option Char) (text : List Char) : Option Match :=
  findFrom options regex accepts (text.length + 1) [] { rest := text, before := before }

/-- The earliest match within a text, behind a character if there is one. -/
def find? (regex : Regex) (options : Options) (before : Option Char) (text : List Char) :
    Option Match :=
  regex.findAccepted? options (fun _ _ => true) before text

/-- The match that starts where a text does. -/
def matchStart? (regex : Regex) (options : Options) (text : List Char) : Option Match :=
  findFrom options regex (fun _ _ => true) 1 [] { rest := text }

/-- Whether there is a match within a text. -/
def isFound (regex : Regex) (options : Options) (text : List Char) : Bool :=
  (regex.find? options none text).isSome

/-- Whether a match takes up whole words. -/
def isWholeWords (start stop : Cursor) : Bool :=
  !(start.before.any isWordChar) && !(stop.rest.head?.any isWordChar)

/-- Whether a match takes up a whole text. -/
def isWholeText (start stop : Cursor) : Bool :=
  start.before.isNone && stop.rest.isEmpty

/-- The number of parts whose matches are noted. -/
def groupCount : Regex → Nat
  | .group number body => max number (groupCount body)
  | .both first second => max (groupCount first) (groupCount second)
  | .either first second => max (groupCount first) (groupCount second)
  | .many body => groupCount body
  | _ => 0

end Regex

end HistoryExpansion.Shell
