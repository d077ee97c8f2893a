import HistoryExpansion.Shell.Regex.Basic

/-!
# Reading regular expressions

There are two ways to write a regular expression: in the basic one most operators stand behind a
backslash, in the extended one they stand alone. The text is first cut into signs, which are the
same for both, and the signs are then read as an expression.
-/

namespace HistoryExpansion.Shell.Regex

/-- How a regular expression is written. -/
structure Style where
  /-- Whether operators stand without a backslash. -/
  extended : Bool
  /-- Whether a backslash and a letter can stand for a control character. -/
  controls : Bool := false
  /-- Whether a backslash counts between brackets. -/
  inBrackets : Bool := false
  /-- Whether a backslash and a letter can stand for the digits, and for all but the digits. -/
  digits : Bool := false
  deriving DecidableEq, Repr

/-- What is wrong with a regular expression. -/
inductive Fault where
  /-- A bracket is not closed. -/
  | openBracket
  /-- A parenthesis is not closed. -/
  | openParenthesis
  /-- A parenthesis is closed that was not opened. -/
  | closedParenthesis
  /-- A brace is not closed. -/
  | openBrace
  /-- What stands between braces is no count. -/
  | badCount
  /-- The end of a range comes before its start. -/
  | badRange
  /-- A class of characters has no such name. -/
  | badClass
  /-- Nothing stands before a repetition. -/
  | nothingRepeated
  /-- A backslash ends the text. -/
  | trailingBackslash
  /-- A part is referred to that there is none of. -/
  | badReference
  /-- A count is too big. -/
  | tooBig
  deriving DecidableEq, Repr

/-- The wording of a fault. -/
def Fault.message : Fault → String
  | openBracket => "Unmatched [, [^, [:, [., or [="
  | openParenthesis => "Unmatched ( or \\("
  | closedParenthesis => "Unmatched ) or \\)"
  | openBrace => "Unmatched \\\x7b"
  | badCount => "Invalid content of \\\x7b\\\x7d"
  | badRange => "Invalid range end"
  | badClass => "Invalid character class name"
  | nothingRepeated => "Invalid preceding regular expression"
  | trailingBackslash => "Trailing backslash"
  | badReference => "Invalid back reference"
  | tooBig => "Regular expression too big"

/-! ## Signs -/

/-- A sign of a regular expression. -/
inductive Sign where
  /-- What an element is matched to. -/
  | element (regex : Regex)
  /-- A caret, which may be the start of a line. -/
  | caret
  /-- A dollar sign, which may be the end of a line. -/
  | dollar
  /-- A repetition from one number of times up to another. -/
  | times (least : Nat) (most : Option Nat)
  /-- A star, which may stand for itself. -/
  | star
  /-- The start of a part. -/
  | opening
  /-- The end of a part. -/
  | closing
  /-- The sign between alternatives. -/
  | bar
  deriving DecidableEq, Repr

/-- The element of one character. -/
def exactly (c : Char) : Regex :=
  .one false [(c, c)]

/-- The character that a letter stands for behind a backslash. -/
def controlChar? (c : Char) : Option Char :=
  if c = 'n' then some '\n'
  else if c = 't' then some '\t'
  else if c = 'r' then some '\x0d'
  else if c = 'f' then some '\x0c'
  else if c = 'v' then some '\x0b'
  else if c = 'a' then some '\x07'
  else none

/-- The element that a letter stands for behind a backslash. -/
def letterElement? (c : Char) : Option Regex :=
  let word : List (Char × Char) := [('a', 'z'), ('A', 'Z'), ('0', '9'), ('_', '_')]
  let space := classRanges "space"
  if c = 'w' then some (.one false word)
  else if c = 'W' then some (.one true word)
  else if c = 's' then some (.one false space)
  else if c = 'S' then some (.one true space)
  else if c = 'b' then some (.at .wordEdge)
  else if c = 'B' then some (.at .noWordEdge)
  else if c = '<' then some (.at .wordStart)
  else if c = '>' then some (.at .wordEnd)
  else if c = '\x60' then some (.at .textStart)
  else if c = '\'' then some (.at .textEnd)
  else none

/-- Takes one character between brackets. -/
def takeBracketChar (style : Style) : List Char → Option (Char × List Char)
  | [] => none
  | '\\' :: c :: rest =>
    if style.inBrackets then some ((controlChar? c).getD c, rest)
    else if style.controls then
      match controlChar? c with
      | some control => some (control, rest)
      | none => some ('\\', c :: rest)
    else some ('\\', c :: rest)
  | '[' :: '.' :: c :: '.' :: ']' :: rest => some (c, rest)
  | '[' :: '=' :: c :: '=' :: ']' :: rest => some (c, rest)
  | c :: rest => some (c, rest)

/-- Takes the ranges between brackets, from behind the opening one. `first` tells that a closing
bracket would stand for itself. -/
def takeBrackets (style : Style) : (fuel : Nat) → (first : Bool) → (found : List (Char × Char)) →
    List Char → Except Fault (List (Char × Char) × List Char)
  | 0, _, _, _ => .error .openBracket
  | _, _, _, [] => .error .openBracket
  | fuel + 1, first, found, text =>
    match text with
    | '[' :: ':' :: rest =>
      let name := rest.takeWhile (· ≠ ':')
      match rest.drop name.length with
      | ':' :: ']' :: behind =>
        match classRanges (String.ofList name) with
        | [] => .error .badClass
        | ranges => takeBrackets style fuel false (found ++ ranges) behind
      | _ => .error .openBracket
    | text =>
      if text.head? = some ']' ∧ !first then .ok (found, text.tail)
      else
        match takeBracketChar style text with
        | none => .error .openBracket
        | some (low, '-' :: ']' :: rest) =>
          takeBrackets style fuel false (found ++ [(low, low)]) ('-' :: ']' :: rest)
        | some (low, '-' :: rest) =>
          match takeBracketChar style rest with
          | none => .error .openBracket
          | some (high, rest) =>
            if high < low then .error .badRange
            else takeBrackets style fuel false (found ++ [(low, high)]) rest
        | some (c, rest) => takeBrackets style fuel false (found ++ [(c, c)]) rest

/-- The greatest count of repetitions. -/
def mostTimes : Nat := 32767

/-- The counts that a text between braces writes. -/
def counts? (text : List Char) : Option (Nat × Option Nat) :=
  let number (digits : List Char) : Nat :=
    digits.foldl (fun value c => value * 10 + (c.toNat - 0x30)) 0
  let isDigits (text : List Char) : Bool := text.all fun c => '0' ≤ c && c ≤ '9'
  let low := text.takeWhile (· ≠ ',')
  match text.drop low.length with
  | [] => if isDigits low && !low.isEmpty then some (number low, some (number low)) else none
  | _ :: high =>
    if !isDigits low || !isDigits high then none
    else some (number low, if high.isEmpty then none else some (number high))

/-- Takes the counts of a repetition from behind its opening brace. -/
def takeCounts (extended : Bool) (text : List Char) : Except Fault (Sign × List Char) :=
  let inner := text.takeWhile fun c => c ≠ '\\' && c ≠ '\x7d'
  let behind := text.drop inner.length
  let rest? :=
    match extended, behind with
    | true, '\x7d' :: rest => some rest
    | false, '\\' :: '\x7d' :: rest => some rest
    | _, _ => none
  match rest? with
  | none => .error .openBrace
  | some rest =>
    match counts? inner with
    | none => .error .badCount
    | some (least, most) =>
      if least > mostTimes ∨ (most.getD 0) > mostTimes then .error .tooBig
      else if most.any (· < least) then .error .badCount
      else .ok (.times least most, rest)

/-- The operator that a character is, where it counts as one. -/
def operatorSign? (c : Char) : Option Sign :=
  if c = '(' then some .opening
  else if c = ')' then some .closing
  else if c = '|' then some .bar
  else if c = '+' then some (.times 1 none)
  else if c = '?' then some (.times 0 (some 1))
  else none

/-- The sign of a character behind a backslash that is no operator. -/
def escapedSign (style : Style) (c : Char) : Sign :=
  if '1' ≤ c ∧ c ≤ '9' then .element (.again (c.toNat - 0x30))
  else if style.digits ∧ c ∈ ['d', 'D'] then .element (.one (c == 'D') [('0', '9')])
  else
    match (if style.controls then controlChar? c else none) with
    | some control => .element (exactly control)
    | none => .element ((letterElement? c).getD (exactly c))

/-- Cuts a text into signs. -/
def signs (style : Style) : (fuel : Nat) → List Char → Except Fault (List Sign)
  | 0, _ => .ok []
  | _, [] => .ok []
  | fuel + 1, text => do
    let (sign, rest) ← match text with
      | ['\\'] => .error .trailingBackslash
      | '\\' :: c :: rest =>
        if style.extended then .ok (escapedSign style c, rest)
        else if c = '\x7b' then takeCounts false rest
        else .ok ((operatorSign? c).getD (escapedSign style c), rest)
      | '*' :: rest => .ok (.star, rest)
      | '^' :: rest => .ok (.caret, rest)
      | '$' :: rest => .ok (.dollar, rest)
      | '.' :: rest => .ok (.element (.one true []), rest)
      | '[' :: '^' :: rest =>
        (takeBrackets style (rest.length + 1) true [] rest).map fun (ranges, rest) =>
          (.element (.one true ranges), rest)
      | '[' :: rest =>
        (takeBrackets style (rest.length + 1) true [] rest).map fun (ranges, rest) =>
          (.element (.one false ranges), rest)
      | '\x7b' :: rest =>
        if style.extended then
          match takeCounts true rest with
          | .ok found => .ok found
          | .error .tooBig => .error .tooBig
          | .error _ => .ok (.element (exactly '\x7b'), rest)
        else .ok (.element (exactly '\x7b'), rest)
      | c :: rest =>
        let sign := if style.extended then operatorSign? c else none
        .ok (sign.getD (.element (exactly c)), rest)
      | [] => .ok (.bar, [])
    return sign :: (← signs style fuel rest)

/-! ## Expressions -/

/-- A part as often as two counts say. -/
def repeated (regex : Regex) (least : Nat) (most : Option Nat) : Regex :=
  let optional : Nat → Regex := fun count =>
    (List.range count).foldl
      (fun (inner : Regex) _ => .either (.both regex inner) .nothing) .nothing
  let rest := match most with
    | none => .many regex
    | some most => optional (most - least)
  (List.range least).foldl (fun (inner : Regex) _ => .both regex inner) rest

/-- What is left to be read of the signs, with the number of parts so far. -/
structure Unread where
  /-- The signs. -/
  signs : List Sign
  /-- The number of parts that were opened. -/
  opened : Nat
  /-- The parts that were closed. -/
  closed : List Nat

/-- Whether a dollar sign before some signs ends a line. -/
def endsLine (extended : Bool) : List Sign → Bool
  | [] => true
  | .closing :: _ => true
  | .bar :: _ => true
  | _ => extended

mutual

/-- Reads alternatives up to the end of their part. -/
def readAlternatives (extended : Bool) : (fuel depth : Nat) → Unread →
    Except Fault (Regex × Unread)
  | 0, _, unread => .ok (.nothing, unread)
  | fuel + 1, depth, unread => do
    let (first, unread) ← readSequence extended fuel depth true unread
    match unread.signs with
    | .bar :: signs =>
      let (second, unread) ← readAlternatives extended fuel depth { unread with signs := signs }
      return (.either first second, unread)
    | _ => return (first, unread)

/-- Reads elements one after the other. `first` tells that nothing stands before them. -/
def readSequence (extended : Bool) : (fuel depth : Nat) → (first : Bool) → Unread →
    Except Fault (Regex × Unread)
  | 0, _, _, unread => .ok (.nothing, unread)
  | fuel + 1, depth, first, unread => do
    let anchor (border : Border) (signs : List Sign) : Except Fault (Regex × Unread) := do
      let (later, unread) ← readSequence extended fuel depth first { unread with signs := signs }
      return (.both (.at border) later, unread)
    let element (regex : Regex) (unread : Unread) : Except Fault (Regex × Unread) := do
      let (regex, unread) := readRepetitions fuel regex unread
      let (later, unread) ← readSequence extended fuel depth false unread
      return (.both regex later, unread)
    match unread.signs with
    | [] => if depth = 0 then return (.nothing, unread) else .error .openParenthesis
    | .bar :: _ => return (.nothing, unread)
    | .closing :: _ => if depth > 0 then return (.nothing, unread) else .error .closedParenthesis
    | .caret :: signs =>
      if first || extended then anchor .lineStart signs
      else element (exactly '^') { unread with signs := signs }
    | .dollar :: signs =>
      if endsLine extended signs then anchor .lineEnd signs
      else element (exactly '$') { unread with signs := signs }
    | .star :: signs =>
      if extended then
        if first then readSequence extended fuel depth first { unread with signs := signs }
        else .error .nothingRepeated
      else element (exactly '*') { unread with signs := signs }
    | .times _ _ :: signs =>
      if first && extended then
        readSequence extended fuel depth first { unread with signs := signs }
      else .error .nothingRepeated
    | .element (.again number) :: signs =>
      if unread.closed.contains number then
        element (.again number) { unread with signs := signs }
      else .error .badReference
    | .element regex :: signs => element regex { unread with signs := signs }
    | .opening :: signs =>
      let number := unread.opened + 1
      let (body, unread) ←
        readAlternatives extended fuel (depth + 1) { unread with signs := signs, opened := number }
      match unread.signs with
      | .closing :: signs =>
        element (.group number body)
          { unread with signs := signs, closed := number :: unread.closed }
      | _ => .error .openParenthesis

/-- Reads the repetitions behind an element. -/
def readRepetitions : (fuel : Nat) → Regex → Unread → Regex × Unread
  | 0, regex, unread => (regex, unread)
  | fuel + 1, regex, unread =>
    match unread.signs with
    | .star :: signs => readRepetitions fuel (.many regex) { unread with signs := signs }
    | .times least most :: signs =>
      readRepetitions fuel (repeated regex least most) { unread with signs := signs }
    | _ => (regex, unread)

end

/-- The regular expression that a text writes. -/
def parse (style : Style) (text : List Char) : Except Fault Regex := do
  let signs ← signs style (text.length + 1) text
  let (regex, _) ← readAlternatives style.extended (3 * signs.length + 3) 0 ⟨signs, 0, []⟩
  return regex

end HistoryExpansion.Shell.Regex
