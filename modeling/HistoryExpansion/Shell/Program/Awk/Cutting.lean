import HistoryExpansion.Shell.Program.Awk.Program

/-!
# Cutting texts

Records are cut out of an input and fields out of a record, at what separates them. Parts of a text
that match a regular expression are replaced.
-/

namespace HistoryExpansion.Shell.Awk

/-- What stands between parts of a text. -/
inductive Separator where
  /-- Blanks, of which those around the text do not count. -/
  | blanks
  /-- Nothing: each character is a part. -/
  | nothing
  /-- A character. -/
  | one (c : Char)
  /-- A match of a regular expression. -/
  | regex (regex : Regex)

/-- The separator that a text stands for. -/
def Separator.ofText (text : List Char) : Except Fault Separator :=
  match text with
  | [] => .ok .nothing
  | [' '] => .ok .blanks
  | [c] => if c = '$' then (regexOf text).map .regex else .ok (.one c)
  | text => (regexOf text).map .regex

/-- Whether a character is one of the blanks between fields. -/
def isFieldBlank (c : Char) : Bool :=
  c == ' ' || c == '\t' || c == '\n'

/-- The parts of a text between its blanks. -/
def cutAtBlanks : List Char → (word : List Char) → List (List Char)
  | [], word => if word.isEmpty then [] else [word.reverse]
  | c :: rest, word =>
    if isFieldBlank c then
      if word.isEmpty then cutAtBlanks rest [] else word.reverse :: cutAtBlanks rest []
    else cutAtBlanks rest (c :: word)

/-- The parts of a text between its matches of a regular expression. -/
def cutAtMatches (regex : Regex) : (fuel : Nat) → (before : Option Char) → List Char →
    List (List Char)
  | 0, _, text => [text]
  | fuel + 1, before, text =>
    match regex.find? {} before text with
    | some found =>
      if found.text.isEmpty then [text]
      else found.skipped :: cutAtMatches regex fuel found.text.getLast? found.rest
    | none => [text]

/-- The parts of a text. -/
def Separator.cut (separator : Separator) (text : List Char) : List (List Char) :=
  if text.isEmpty then []
  else
    match separator with
    | blanks => cutAtBlanks text []
    | nothing => text.map ([·])
    | one c => text.splitOn c
    | regex shape => cutAtMatches shape (text.length + 1) none text

/-- The first record of an input and what is behind it. With the flag it is followed by what ends
records. -/
def cutRecord (separator : List Char) (input : List Char) :
    Except Fault (Option (List Char × List Char × Bool)) :=
  match separator with
  | [] =>
    let input := input.dropWhile (· = '\n')
    if input.isEmpty then .ok none
    else
      let (record, rest) := paragraph input []
      .ok (some (record, rest.dropWhile (· = '\n'), !rest.isEmpty))
  | [c] =>
    if input.isEmpty then .ok none
    else
      let record := input.takeWhile (· ≠ c)
      let rest := input.drop record.length
      .ok (some (record, rest.tail, !rest.isEmpty))
  | separator => do
    let regex ← regexOf separator
    if input.isEmpty then return none
    match regex.find? {} none input with
    | some found =>
      if found.text.isEmpty then return some (input, [], false)
      return some (found.skipped, found.rest, true)
    | none => return some (input, [], false)
where
  /-- Cuts at the first empty line. -/
  paragraph : List Char → (record : List Char) → List Char × List Char
    | [], record => ((if record.head? = some '\n' then record.tail else record).reverse, [])
    | '\n' :: '\n' :: rest, record => (record.reverse, '\n' :: '\n' :: rest)
    | c :: rest, record => paragraph rest (c :: record)

/-! ## Replacing -/

/-- A text that takes the place of a match: an ampersand stands for the match, unless it is behind a
backslash. -/
def filledIn (found : List Char) : List Char → List Char
  | [] => []
  | '\\' :: '\\' :: '&' :: rest => '\\' :: found ++ filledIn found rest
  | '\\' :: '&' :: rest => '&' :: filledIn found rest
  | '&' :: rest => found ++ filledIn found rest
  | c :: rest => c :: filledIn found rest

/-- A text with the matches of a regular expression replaced, and their number. An empty match right
behind another one does not count. -/
def replaced (regex : Regex) (replacement : List Char) (all : Bool) : (fuel : Nat) →
    (before : Option Char) → (behindMatch : Bool) → List Char → List Char × Nat
  | 0, _, _, text => (text, 0)
  | fuel + 1, before, behindMatch, text =>
    match regex.find? {} before text with
    | none => (text, 0)
    | some found =>
      let goOn (before : Option Char) (behindMatch : Bool) (rest : List Char) :
          List Char × Nat :=
        if all then replaced regex replacement all fuel before behindMatch rest else (rest, 0)
      if found.text.isEmpty then
        if behindMatch ∧ found.skipped.isEmpty then
          match text with
          | [] => ([], 0)
          | c :: rest =>
            let (more, count) := goOn (some c) false rest
            (c :: more, count)
        else
          let shown := found.skipped ++ filledIn [] replacement
          match found.rest with
          | [] => (shown, 1)
          | c :: rest =>
            if all then
              let (more, count) := goOn (some c) false rest
              (shown ++ c :: more, count + 1)
            else (shown ++ c :: rest, 1)
      else
        let (more, count) := goOn found.text.getLast? true found.rest
        (found.skipped ++ filledIn found.text replacement ++ more, count + 1)

/-- The place of the first occurrence of a text in another one, counted from one, or zero. -/
def placeOf (wanted : List Char) : List Char → (index : Nat) → Nat
  | [], index => if wanted.isEmpty then index else 0
  | c :: rest, index =>
    if wanted.isPrefixOf (c :: rest) then index else placeOf wanted rest (index + 1)

/-- A part of a text from a place on, so many characters long. A place before the text makes the
part longer. -/
def partOf (text : List Char) (start : Int) (length : Option Int) : List Char :=
  let first := max start 1
  let rest := text.drop (first - 1).toNat
  match length with
  | none => rest
  | some length => rest.take (if start < 1 then length - start else length).toNat

end HistoryExpansion.Shell.Awk
