import HistoryExpansion.Yaml.Scanner.Basic

/-!
# Scalars

Cutting plain, quoted and block scalars. A scalar may go over several lines; how the breaks and the
spaces between its lines count depends on how it is written.
-/

namespace HistoryExpansion.Yaml.Scanner

/-- Line breaks and spaces that may have to be folded. -/
structure Folding where
  /-- Spaces and tabs on a line with content before them. -/
  spaces : List Char := []
  /-- The first line break behind content. -/
  first : Bool := false
  /-- The number of further line breaks. -/
  further : Nat := 0

namespace Folding

/-- What breaks between two lines of content become: one break a space, and of several all but the
first one. -/
def joined (folding : Folding) : List Char :=
  if folding.first then
    if folding.further = 0 then [' '] else List.replicate folding.further '\n'
  else List.replicate folding.further '\n'

end Folding

/-- Takes the spaces and line breaks inside a scalar. With `column`, a tab before that column is an
error unless nothing follows on its line. -/
def takeFolding (column : Int) (plain : Bool) : (fuel : Nat) → (broken : Bool) → Folding →
    Scanner → Option (Folding × Bool × Scanner)
  | 0, broken, folding, s => some (folding, broken, s)
  | fuel + 1, broken, folding, s =>
    let c := s.peek
    if isSpacing c then
      if !broken then
        takeFolding column plain fuel broken
          { folding with spaces := folding.spaces ++ [c] } s.take
      else if c == '\t' && (s.column : Int) < column then
        if plain then
          match s.takeSpacing with
          | none => none
          | some (s, _) =>
            if isBreakOrEnd s.peek then takeFolding column plain fuel broken folding s else none
        else none
      else takeFolding column plain fuel broken folding s.take
    else if isBreak c then
      if broken then
        takeFolding column plain fuel true { folding with further := folding.further + 1 }
          s.takeBreak
      else
        takeFolding column plain fuel true { folding with spaces := [], first := true } s.takeBreak
    else some (folding, broken, s)

/-- Whether the character at hand may be part of a plain scalar. -/
def plainGoesOn (s : Scanner) : Bool :=
  let c := s.peek
  !isGap c &&
    !(c == ':' && (isGap s.peekNext || (s.depth > 0 && isFlow s.peekNext))) &&
    !(s.depth > 0 && isFlow c)

/-- Takes the characters of a plain scalar up to a gap. -/
def takePlainRun : (fuel : Nat) → (found : List Char) → Scanner → List Char × Scanner
  | 0, found, s => (found.reverse, s)
  | fuel + 1, found, s =>
    if s.plainGoesOn then takePlainRun fuel (s.peek :: found) s.take else (found.reverse, s)

/-- Takes a plain scalar from a run of its characters on. -/
def takePlainFrom (column : Int) : (fuel : Nat) → (found : List Char) → (folding : Folding) →
    (broken : Bool) → Scanner → Option (List Char × Bool × Scanner)
  | 0, found, _, broken, s => some (found, broken, s)
  | fuel + 1, found, folding, broken, s =>
    if s.atDocumentMarker || s.peek == '#' then some (found, broken, s)
    else if s.depth > 0 && s.peek == '-' && isFlow s.peekNext then none
    else
      let (found, broken, folding, s) :=
        if s.plainGoesOn then
          let (run, behind) := takePlainRun s.rest.length [] s
          let joint := if broken then folding.joined else folding.spaces
          (found ++ joint ++ run, false, ({} : Folding), behind)
        else (found, broken, folding, s)
      if !(isSpacing s.peek || isBreak s.peek) then some (found, broken, s)
      else
        match takeFolding column true (2 * s.rest.length + 1) broken folding s with
        | none => none
        | some (folding, broken, s) =>
          if s.depth == 0 && (s.column : Int) < column then some (found, broken, s)
          else takePlainFrom column fuel found folding broken s

/-- Cuts a plain scalar. -/
def scanPlain (s : Scanner) : Option Scanner :=
  let s := s.saveKey.allowKey false |>.dropSoft
  let column := s.indent + 1
  if s.depth > 0 ∧ (s.column : Int) < column then none
  else
    match takePlainFrom column (s.rest.length + 1) [] {} false s with
    | none => none
    | some (found, broken, s) =>
      if found.isEmpty then none
      else
        let s := if broken then s.allowKey true else s
        some (s.push (.scalar .plain (String.ofList found)))

/-- The character of a one-letter escape between double quotes. -/
def escaped? (c : Char) : Option Char :=
  if c == '0' then some '\x00'
  else if c == 'a' then some '\x07'
  else if c == 'b' then some '\x08'
  else if c == 't' || c == '\t' then some '\t'
  else if c == 'n' then some '\n'
  else if c == 'v' then some '\x0b'
  else if c == 'f' then some '\x0c'
  else if c == 'r' then some '\r'
  else if c == 'e' then some '\x1b'
  else if c == ' ' then some ' '
  else if c == '"' then some '"'
  else if c == '/' then some '/'
  else if c == '\\' then some '\\'
  else if c == 'N' then some '\u0085'
  else if c == '_' then some '\u00a0'
  else if c == 'L' then some '\u2028'
  else if c == 'P' then some '\u2029'
  else none

/-- The number of hexadecimal digits behind the letter of an escape. -/
def escapeDigits? (c : Char) : Option Nat :=
  if c == 'x' then some 2
  else if c == 'u' then some 4
  else if c == 'U' then some 8
  else none

/-- The character with a code, if there is one. -/
def charOfCode? (code : Nat) : Option Char :=
  if code.isValidChar then some (Char.ofNat code) else none

/-- The character of the escape at hand, with the number of characters that it takes. -/
def escape? (s : Scanner) : Option (Char × Nat) :=
  match escapeDigits? s.peekNext with
  | none => (escaped? s.peekNext).map (·, 2)
  | some digits =>
    let written := (s.rest.drop 2).take digits
    if written.length = digits then
      match written.mapM hexValue? with
      | none => none
      | some values =>
        (charOfCode? (values.foldl (fun code value => code * 16 + value) 0)).map (·, 2 + digits)
    else none

/-- Takes the characters of a quoted scalar up to a gap or its end. Says whether they ended in an
escaped line break. -/
def takeQuotedRun (single : Bool) : (fuel : Nat) → (found : List Char) → Scanner →
    Option (List Char × Bool × Scanner)
  | 0, found, s => some (found.reverse, false, s)
  | fuel + 1, found, s =>
    let c := s.peek
    if isGap c then some (found.reverse, false, s)
    else if single then
      if c == '\'' then
        if s.peekNext == '\'' then takeQuotedRun single fuel ('\'' :: found) (takeMany 2 s)
        else some (found.reverse, false, s)
      else takeQuotedRun single fuel (c :: found) s.take
    else if c == '"' then some (found.reverse, false, s)
    else if c == '\\' then
      if isBreak s.peekNext then some (found.reverse, true, s.take.takeBreak)
      else
        match s.escape? with
        | none => none
        | some (c, length) => takeQuotedRun single fuel (c :: found) (takeMany length s)
    else takeQuotedRun single fuel (c :: found) s.take

/-- Takes a quoted scalar from behind its opening quote to its closing one. Outside of flow
collections the text behind a line break must be indented. -/
def takeQuotedFrom (single : Bool) : (fuel : Nat) → (found : List Char) → Scanner →
    Option (List Char × Scanner)
  | 0, _, _ => none
  | fuel + 1, found, s =>
    if s.atDocumentMarker || s.peek == endChar then none
    else
      let quote := if single then '\'' else '"'
      match takeQuotedRun single s.rest.length [] s with
      | none => none
      | some (run, escaped, s) =>
        let found := found ++ run
        if s.peek == quote && !escaped then some (found, s)
        else
          match takeFolding s.indent false (2 * s.rest.length + 1) escaped {} s with
          | none => none
          | some (folding, broken, s) =>
            if broken && !escaped && s.depth == 0 && (s.column : Int) ≤ s.indent &&
                s.peek != quote then none
            else
              takeQuotedFrom single fuel
                (found ++ (if broken then folding.joined else folding.spaces)) s

/-- Whether a character may follow a quoted scalar that started on a given line. -/
def mayFollowQuoted (startLine : Nat) (s : Scanner) : Bool :=
  let c := s.peek
  isBreakOrEnd c || (s.depth > 0 && (c == ',' || c == ']' || c == '\x7d')) ||
    (c == ':' && (s.depth > 0 || s.line == startLine))

/-- Cuts a quoted scalar. -/
def scanQuoted (single : Bool) (s : Scanner) : Option Scanner :=
  let s := s.saveKey.allowKey false
  let startLine := s.line
  match takeQuotedFrom single (s.rest.length + 1) [] s.take with
  | none => none
  | some (found, s) =>
    match s.take.takeSpacing with
    | none => none
    | some (s, _) =>
      if mayFollowQuoted startLine s then
        match s.takeGap with
        | none => none
        | some s =>
          let token := .scalar (if single then .single else .double) (String.ofList found)
          some (push token { s with adjacentAt := s.index })
      else none

/-- What becomes of the line breaks that a block scalar ends in. -/
inductive Chomping where
  /-- One is kept. -/
  | clip
  /-- None is kept. -/
  | strip
  /-- All are kept. -/
  | keep
  deriving DecidableEq, Repr

/-- The chomping that a character asks for. -/
def chomping? (c : Char) : Option Chomping :=
  if c == '+' then some .keep else if c == '-' then some .strip else none

/-- The indentation that a character asks for. -/
def increment? (c : Char) : Option Nat :=
  if isDigit c then some (c.toNat - 0x30) else none

/-- Takes what stands behind the indicator of a block scalar: its chomping and its indentation, in
either order. An indentation of zero is refused. -/
def takeBlockHeader (s : Scanner) : Option (Chomping × Nat × Scanner) :=
  let found :=
    match chomping? s.peek with
    | some chomping =>
      match increment? s.peekNext with
      | some increment => (chomping, some increment, takeMany 2 s)
      | none => (chomping, none, s.take)
    | none =>
      match increment? s.peek with
      | some increment =>
        match chomping? s.peekNext with
        | some chomping => (chomping, some increment, takeMany 2 s)
        | none => (.clip, some increment, s.take)
      | none => (.clip, none, s)
  match found with
  | (_, some 0, _) => none
  | (chomping, increment, s) => some (chomping, increment.getD 0, s)

/-- Takes the indentation of a line of a block scalar and the empty lines before it. -/
def takeBlockIndent (column : Nat) : (fuel : Nat) → (breaks : Nat) → Scanner → Nat × Scanner
  | 0, breaks, s => (breaks, s)
  | fuel + 1, breaks, s =>
    let spaces := (s.rest.takeWhile (· == ' ')).length
    let s := takeMany (min spaces (column - s.column)) s
    if isBreak s.peek then takeBlockIndent column fuel (breaks + 1) s.takeBreak else (breaks, s)

/-- Takes the indentation of the first line of a block scalar and the empty lines before it. Gives
the widest indentation of them. -/
def takeFirstIndent : (fuel : Nat) → (widest breaks : Nat) → Scanner → Nat × Nat × Scanner
  | 0, widest, breaks, s => (widest, breaks, s)
  | fuel + 1, widest, breaks, s =>
    let s := s.takeWhile (· == ' ')
    let widest := max widest s.column
    if isBreak s.peek then takeFirstIndent fuel widest (breaks + 1) s.takeBreak
    else (widest, breaks, s)

/-- The lines of a block scalar as they have been read so far. -/
structure Block where
  /-- The text before the line breaks that are not settled yet. -/
  text : List Char := []
  /-- Whether the last line of content ended in a break. -/
  lineBreak : Bool := false
  /-- The number of breaks of empty lines behind it. -/
  emptyLines : Nat := 0
  /-- Whether the last line of content started with a space or a tab. -/
  indented : Bool := false

/-- Takes the lines of content of a block scalar that is indented to a column. -/
def takeBlockLines (literal : Bool) (column : Nat) : (fuel : Nat) → Block → Scanner →
    Block × Scanner
  | 0, block, s => (block, s)
  | fuel + 1, block, s =>
    if s.column ≠ column ∨ s.peek = endChar ∨ (column = 0 ∧ s.atMarker '.') then (block, s)
    else
      let indented := isSpacing s.peek
      let breaks := List.replicate block.emptyLines '\n'
      let joint :=
        if !literal && block.lineBreak && !block.indented && !indented then
          if block.emptyLines = 0 then [' '] else breaks
        else (if block.lineBreak then ['\n'] else []) ++ breaks
      let line := s.rest.takeWhile (!isBreakOrEnd ·)
      let s := takeMany line.length s
      let block : Block := ⟨block.text ++ joint ++ line, false, 0, indented⟩
      if s.peek = endChar then (block, s)
      else
        let (emptyLines, s) := takeBlockIndent column (s.rest.length + 1) 0 s.takeBreak
        takeBlockLines literal column fuel
          { block with lineBreak := true, emptyLines := emptyLines } s

/-- Cuts a block scalar. -/
def scanBlock (literal : Bool) (s : Scanner) : Option Scanner :=
  let s := s.saveKey.allowKey true
  let startLine := s.line
  let style : Style := if literal then .literal else .folded
  match takeBlockHeader s.take.dropSoft with
  | none => none
  | some (chomping, increment, s) =>
    match s.takeSpacing with
    | none => none
    | some (s, _) =>
      if !isBreakOrEnd s.peek then none
      else
        let headerBreak := isBreak s.peek
        let s := if headerBreak then s.takeBreak else s
        if s.peek = '\t' then none
        else
          let (column, emptyLines, s) :=
            if increment > 0 then
              let column := (max s.indent 0).toNat + increment
              let (emptyLines, behind) := takeBlockIndent column (s.rest.length + 1) 0 s
              (column, emptyLines, behind)
            else
              let (widest, emptyLines, behind) := takeFirstIndent (s.rest.length + 1) 0 0 s
              let column := max widest (s.indent + 1).toNat
              (if s.indent > 0 then max column 1 else column, emptyLines, behind)
          if s.peek = endChar then
            let text :=
              if chomping = .strip || s.line == startLine then []
              else if chomping = .keep && emptyLines > 0 then List.replicate emptyLines '\n'
              else if headerBreak then ['\n'] else []
            some (s.push (.scalar style (String.ofList text)))
          else if s.column < column ∧ (s.column : Int) > s.indent then none
          else
            let (block, s) :=
              takeBlockLines literal column (s.rest.length + 1) { emptyLines := emptyLines } s
            let ending :=
              if chomping = .strip then []
              else
                (if block.lineBreak then ['\n'] else []) ++
                  (if s.peek = endChar ∧ s.column ≥ max column 1 then ['\n'] else [])
            let kept := if chomping = .keep then List.replicate block.emptyLines '\n' else []
            some (s.push (.scalar style (String.ofList (block.text ++ ending ++ kept))))

end HistoryExpansion.Yaml.Scanner
