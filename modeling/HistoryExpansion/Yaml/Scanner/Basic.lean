import HistoryExpansion.Yaml.Token

/-!
# Scanners

A `Scanner` stands at a character of the text and remembers the columns of the open block
collections, the depth of the open flow collections, and for each depth the place of a scalar that
may still turn out to be a key. A key is known for one only by the colon behind it, so its token is
put in front of a scalar that has been cut already. Tokens are settled up to the first place where
a key may still turn out to be; where the text is found not to be YAML, only those count.

Every scan that gives nothing stands for a text that is not YAML.
-/

namespace HistoryExpansion.Yaml

/-! ## Classes of characters -/

/-- The character that stands for the end of the text. -/
def endChar : Char := '\x00'

/-- A line feed or a carriage return. -/
def isBreak (c : Char) : Bool := c == '\n' || c == '\r'

/-- A space or a tab. -/
def isSpacing (c : Char) : Bool := c == ' ' || c == '\t'

/-- A line break or the end of the text. -/
def isBreakOrEnd (c : Char) : Bool := isBreak c || c == endChar

/-- A space, a tab, a line break or the end of the text. -/
def isGap (c : Char) : Bool := isSpacing c || isBreakOrEnd c

/-- A character that structures flow collections. -/
def isFlow (c : Char) : Bool :=
  c == ',' || c == '[' || c == ']' || c == '\x7b' || c == '\x7d'

/-- An ASCII digit. -/
def isDigit (c : Char) : Bool := '0' ≤ c && c ≤ '9'

/-- An ASCII letter or digit, a dash or an underscore. -/
def isNameChar (c : Char) : Bool :=
  isDigit c || ('a' ≤ c && c ≤ 'z') || ('A' ≤ c && c ≤ 'Z') || c == '_' || c == '-'

/-- A character of an anchor's name. -/
def isAnchorChar (c : Char) : Bool := !isGap c && !isFlow c && c != '\uFEFF'

/-- A character of a tag between angle brackets. -/
def isUriChar (c : Char) : Bool :=
  isNameChar c || ("#;/?:@&=+$,.!~*'()[]%".toList.contains c)

/-- A character of any other tag. -/
def isTagChar (c : Char) : Bool := isUriChar c && !isFlow c && c != '!'

/-- The value of a hexadecimal digit. -/
def hexValue? (c : Char) : Option Nat :=
  if isDigit c then some (c.toNat - 0x30)
  else if 'a' ≤ c ∧ c ≤ 'f' then some (c.toNat - 0x57)
  else if 'A' ≤ c ∧ c ≤ 'F' then some (c.toNat - 0x37)
  else none

/-! ## The scanner's state -/

/-- A place where a key may have started. -/
structure KeyPlace where
  /-- Whether a key can still turn out to be there. -/
  possible : Bool := false
  /-- Whether the text is wrong unless a key turns out to be there. -/
  required : Bool := false
  /-- The number of tokens before it. -/
  tokenCount : Nat := 0
  /-- Its place in the text, counted in octets. -/
  index : Nat := 0
  /-- Its line. -/
  line : Nat := 0
  /-- Its column. -/
  column : Nat := 0
  deriving DecidableEq, Repr

/-- An indentation to go back to. -/
structure Indent where
  /-- The column of the collection outside. -/
  column : Int
  /-- Whether a block collection ends when it is gone back to. -/
  closes : Bool
  deriving DecidableEq, Repr

/-- A place in a text that is being cut into tokens. -/
structure Scanner where
  /-- The characters not yet taken. -/
  rest : List Char
  /-- The number of octets that the characters taken have in UTF-8. -/
  index : Nat := 0
  /-- The number of lines taken. -/
  line : Nat := 0
  /-- The number of characters taken on this line. -/
  column : Nat := 0
  /-- Whether only spaces and tabs have been taken on this line. -/
  fresh : Bool := true
  /-- The column of the innermost open collection. -/
  indent : Int := -1
  /-- The indentations outside of it, innermost first. -/
  indents : List Indent := []
  /-- The number of open flow collections. -/
  depth : Nat := 0
  /-- For each open flow sequence, innermost first, the depth of an entry of a mapping without
  braces that is open in it. -/
  pairs : List (Option Nat) := []
  /-- Whether a key or a colon in a flow sequence belongs to a mapping whose start has been cut. -/
  inMapping : Bool := false
  /-- Whether a key may start here. -/
  keyAllowed : Bool := true
  /-- The last place of a possible key at each depth, innermost first. -/
  keys : List KeyPlace := [{}]
  /-- The place where a colon counts even without a space behind it. -/
  adjacentAt : Nat := 0
  /-- The tokens cut so far. -/
  tokens : Array Token := #[]
  /-- The number of tokens that are settled. -/
  settled : Nat := 0

namespace Scanner

/-- The character at hand. -/
def peek (s : Scanner) : Char := s.rest.headD endChar

/-- The character behind the one at hand. -/
def peekNext (s : Scanner) : Char := s.rest.tail.headD endChar

/-- Takes a character that is no line break. -/
def take (s : Scanner) : Scanner :=
  { s with
    rest := s.rest.tail, index := s.index + s.peek.utf8Size, column := s.column + 1,
    fresh := s.fresh && isSpacing s.peek }

/-- Takes several characters that are no line breaks. -/
def takeMany : (count : Nat) → Scanner → Scanner
  | 0, s => s
  | count + 1, s => takeMany count s.take

/-- Takes a line break; a carriage return and a line feed behind it are one. -/
def takeBreak (s : Scanner) : Scanner :=
  let length := if s.peek = '\r' ∧ s.peekNext = '\n' then 2 else 1
  { s with
    rest := s.rest.drop length, index := s.index + length, line := s.line + 1, column := 0,
    fresh := true }

/-- Takes the characters of a class. -/
def takeWhile (class? : Char → Bool) (s : Scanner) : Scanner :=
  takeMany (s.rest.takeWhile class?).length s

/-- Cuts a token. -/
def push (token : Token) (s : Scanner) : Scanner :=
  { s with tokens := s.tokens.push token }

/-- Puts a token behind the first `count` tokens. -/
def insert (count : Nat) (token : Token) (s : Scanner) : Scanner :=
  { s with tokens := s.tokens.insertIdx! (min count s.tokens.size) token }

/-- Says whether a key may start at the next token. -/
def allowKey (allowed : Bool) (s : Scanner) : Scanner :=
  { s with keyAllowed := allowed }

/-- Takes spaces, tabs and a comment. A comment needs a space or a tab before it. Gives the scanner
behind them, whether there was a tab, and whether there was a space. -/
def takeSpacing (s : Scanner) : Option (Scanner × Bool × Bool) :=
  let run := s.rest.takeWhile isSpacing
  let behind := takeMany run.length s
  if behind.peek = '#' then
    if run.isEmpty then none
    else some (behind.takeWhile (!isBreakOrEnd ·), run.contains '\t', run.contains ' ')
  else some (behind, run.contains '\t', run.contains ' ')

/-! ## Keys -/

/-- Notes the place at hand as one where a key may have started. -/
def saveKey (s : Scanner) : Scanner :=
  if s.keyAllowed then
    let required := s.depth == 0 && s.indent == (s.column : Int) &&
      ((s.indents.head?.map Indent.closes).getD false)
    let place : KeyPlace := ⟨true, required, s.tokens.size, s.index, s.line, s.column⟩
    { s with keys := place :: s.keys.tail }
  else s

/-- Gives up the innermost place of a possible key. -/
def removeKey (s : Scanner) : Option Scanner :=
  match s.keys with
  | [] => some s
  | place :: outer =>
    if place.possible && place.required then none
    else some { s with keys := { place with possible := false } :: outer }

/-- The farthest that the colon of a key may be from its start, in octets. -/
def longestKey : Nat := 1024

/-- Gives up the places that are too far back for a key outside of flow collections. -/
def expireKeys (s : Scanner) : Option Scanner :=
  let stale (place : KeyPlace) : Bool :=
    place.possible && s.depth == 0 && (place.line < s.line || place.index + longestKey < s.index)
  if s.keys.any fun place => stale place && place.required then none
  else
    some { s with
      keys := s.keys.map fun (place : KeyPlace) =>
        if stale place then { place with possible := false } else place }

/-- Settles the tokens before the first place where a key may still turn out to be. Gives nothing
if a place is too far back for a key that has to be there. -/
def settle (s : Scanner) : Option Scanner :=
  if s.settled < s.tokens.size then
    s.expireKeys.map fun s =>
      let pending := s.keys.filter fun (place : KeyPlace) =>
        place.possible && s.settled ≤ place.tokenCount
      { s with settled := (pending.map KeyPlace.tokenCount).foldl min s.tokens.size }
  else some s

/-- The settled tokens, behind which the text is no YAML. -/
def brokenTokens (s : Scanner) : Array Token :=
  (s.tokens.take s.settled).push .broken

/-! ## Indentation -/

/-- Closes the collections that are indented deeper than a column. -/
def unrollTo (column : Int) : (indents : List Indent) → Scanner → Scanner
  | [], s => s
  | outer :: indents, s =>
    if s.indent > column then
      let s := { s with indent := outer.column, indents := indents }
      unrollTo column indents (if outer.closes then s.push .blockEnd else s)
    else s

/-- Closes the block collections that are indented deeper than a column. -/
def unroll (column : Int) (s : Scanner) : Scanner :=
  if s.depth > 0 then s else unrollTo column s.indents s

/-- Drops the indentations that close nothing. -/
def dropSoftFrom : (indents : List Indent) → Scanner → Scanner
  | [], s => s
  | outer :: indents, s =>
    if outer.closes then s
    else dropSoftFrom indents { s with indent := outer.column, indents := indents }

/-- Drops the indentations that close nothing. -/
def dropSoft (s : Scanner) : Scanner :=
  dropSoftFrom s.indents s

/-- Asks for what follows to be indented by one more column, without starting a collection. -/
def rollOne (s : Scanner) : Scanner :=
  if s.depth == 0 && ((s.indents.head?.map Indent.closes).getD false) then
    { s with indents := ⟨s.indent, false⟩ :: s.indents, indent := s.indent + 1 }
  else s

/-- Starts a block collection at a column, unless one is open there, with its token behind the first
`count` tokens. -/
def roll (column : Nat) (count : Nat) (token : Token) (s : Scanner) : Scanner :=
  if s.depth > 0 then s
  else
    let s :=
      match s.indents with
      | outer :: indents =>
        if s.indent ≤ (column : Int) ∧ !outer.closes then
          { s with indent := outer.column, indents := indents }
        else s
      | [] => s
    if s.indent < (column : Int) then
      insert count token
        { s with indents := ⟨s.indent, true⟩ :: s.indents, indent := (column : Int) }
    else s

/-! ## Between tokens -/

/-- Takes what may stand between tokens. A tab may not stand where a block is indented, unless
nothing follows on its line. -/
def takeGapWithin : (fuel : Nat) → Scanner → Option Scanner
  | 0, s => some s
  | fuel + 1, s =>
    let c := s.peek
    if c == '\t' && !s.indents.isEmpty && s.fresh && (s.column : Int) < s.indent then
      match s.takeSpacing with
      | none => none
      | some (s, _) => if isBreakOrEnd s.peek then takeGapWithin fuel s else none
    else if isSpacing c then takeGapWithin fuel s.take
    else if isBreak c then
      let s := s.takeBreak
      takeGapWithin fuel (if s.depth == 0 then s.allowKey true else s)
    else if c == '#' then takeGapWithin fuel (s.takeWhile (!isBreakOrEnd ·))
    else some s

/-- Takes what may stand between tokens. -/
def takeGap (s : Scanner) : Option Scanner :=
  takeGapWithin (2 * s.rest.length + 1) s

/-- Whether three times the character stand at the start of a line, with a gap behind them. -/
def atMarker (c : Char) (s : Scanner) : Bool :=
  s.column == 0 &&
    match s.rest with
    | a :: b :: d :: rest => a == c && b == c && d == c && isGap (rest.headD endChar)
    | _ => false

/-- Whether a marker of a document stands at the start of a line. -/
def atDocumentMarker (s : Scanner) : Bool :=
  s.atMarker '-' || s.atMarker '.'

end Scanner

end HistoryExpansion.Yaml
