import HistoryExpansion.Disk.Basic

/-!
# Patterns

A pattern is matched against a whole text: a star stands for any text, a question mark for one
character, and brackets for one of several. A character that was quoted stands for itself.
-/

namespace HistoryExpansion.Shell

/-- A character of a pattern, and whether it stands for itself. -/
structure Glyph where
  /-- The character. -/
  char : Char
  /-- Whether it was quoted. -/
  quoted : Bool
  deriving DecidableEq, Repr

/-- An element of a pattern. -/
inductive Mark where
  /-- One given character. -/
  | exactly (c : Char)
  /-- Any one character. -/
  | one
  /-- Any text. -/
  | many
  /-- One character of some ranges, or with the flag one of none of them. -/
  | among (excluded : Bool) (ranges : List (Char × Char))
  deriving DecidableEq, Repr

/-- The ranges of the characters of a named class. -/
def classRanges : String → List (Char × Char)
  | "alpha" => [('a', 'z'), ('A', 'Z')]
  | "digit" => [('0', '9')]
  | "alnum" => [('a', 'z'), ('A', 'Z'), ('0', '9')]
  | "upper" => [('A', 'Z')]
  | "lower" => [('a', 'z')]
  | "space" => [('\t', '\x0d'), (' ', ' ')]
  | "blank" => [(' ', ' '), ('\t', '\t')]
  | "punct" => [('!', '/'), (':', '@'), ('[', '\x60'), ('\x7b', '~')]
  | "xdigit" => [('0', '9'), ('a', 'f'), ('A', 'F')]
  | "cntrl" => [('\x00', '\x1f'), ('\x7f', '\x7f')]
  | "print" => [(' ', '~')]
  | "graph" => [('!', '~')]
  | _ => []

/-- Takes the ranges between brackets. `first` tells that a closing bracket would stand for
itself. -/
def takeRanges : (fuel : Nat) → (first : Bool) → List Glyph →
    Option (List (Char × Char) × List Glyph)
  | 0, _, _ => none
  | _, _, [] => none
  | fuel + 1, first, glyph :: rest =>
    let add (range : List (Char × Char)) (rest : List Glyph) :=
      (takeRanges fuel false rest).map fun (ranges, rest) => (range ++ ranges, rest)
    if glyph.char = ']' ∧ !glyph.quoted ∧ !first then some ([], rest)
    else
      match glyph.char, rest with
      | '[', ⟨':', false⟩ :: behind =>
        let name := (behind.takeWhile (·.char ≠ ':')).map Glyph.char
        match behind.drop name.length with
        | ⟨':', _⟩ :: ⟨']', _⟩ :: rest => add (classRanges (String.ofList name)) rest
        | _ => add [('[', '[')] rest
      | c, ⟨'-', false⟩ :: last :: behind =>
        if last.char = ']' ∧ !last.quoted then add [(c, c)] rest else add [(c, last.char)] behind
      | c, _ => add [(c, c)] rest

/-- The elements of a pattern. -/
def marks : (fuel : Nat) → List Glyph → List Mark
  | 0, _ => []
  | _, [] => []
  | fuel + 1, glyph :: rest =>
    if glyph.quoted then .exactly glyph.char :: marks fuel rest
    else
      match glyph.char with
      | '*' => .many :: marks fuel rest
      | '?' => .one :: marks fuel rest
      | '[' =>
        let (excluded, inner) :=
          match rest with
          | ⟨'!', false⟩ :: inner => (true, inner)
          | ⟨'^', false⟩ :: inner => (true, inner)
          | inner => (false, inner)
        match takeRanges (inner.length + 1) true inner with
        | some (ranges, rest) => .among excluded ranges :: marks fuel rest
        | none => .exactly '[' :: marks fuel rest
      | c => .exactly c :: marks fuel rest

/-- Whether one character fits an element that stands for one. -/
def Mark.fits : Mark → Char → Bool
  | .exactly c, d => c == d
  | .one, _ => true
  | .many, _ => false
  | .among excluded ranges, d => ranges.any (fun (low, high) => low ≤ d && d ≤ high) != excluded

/-- Whether the elements of a pattern match a text. -/
def matchMarks : List Mark → List Char → Bool
  | [], text => text.isEmpty
  | .many :: marks, [] => matchMarks marks []
  | .many :: marks, c :: text => matchMarks marks (c :: text) || matchMarks (.many :: marks) text
  | _ :: _, [] => false
  | mark :: marks, c :: text => mark.fits c && matchMarks marks text
termination_by marks text => marks.length + text.length

/-- A character for each octet of a text. -/
def octetChars (text : List Char) : List Char :=
  (Utf8.encode text).map fun octet => Char.ofNat octet.toNat

/-- The text of characters for octets. -/
def ofOctetChars (chars : List Char) : List Char :=
  Utf8.decodeLossy (chars.map fun c => c.toNat.toUInt8)

/-- The elements of a pattern for octets. -/
def marksOf (pattern : List Glyph) : List Mark :=
  let glyphs := pattern.flatMap fun glyph =>
    (octetChars [glyph.char]).map fun c => ⟨c, glyph.quoted⟩
  marks (glyphs.length + 1) glyphs

/-- Whether a pattern matches a text, octet by octet. -/
def fitsPattern (pattern : List Glyph) (text : List Char) : Bool :=
  matchMarks (marksOf pattern) (octetChars text)

/-- A text without a match of a pattern at its start. -/
def cutAtStart (longest : Bool) (pattern : List Glyph) (text : List Char) : List Char :=
  let marks := marksOf pattern
  let chars := octetChars text
  let lengths := List.range (chars.length + 1)
  let lengths := if longest then lengths.reverse else lengths
  match lengths.find? fun n => matchMarks marks (chars.take n) with
  | some n => ofOctetChars (chars.drop n)
  | none => text

/-- A text without a match of a pattern at its end. -/
def cutAtEnd (longest : Bool) (pattern : List Glyph) (text : List Char) : List Char :=
  let marks := marksOf pattern
  let chars := octetChars text
  let lengths := List.range (chars.length + 1)
  let lengths := if longest then lengths else lengths.reverse
  match lengths.find? fun n => matchMarks marks (chars.drop n) with
  | some n => ofOctetChars (chars.take n)
  | none => text

/-! ## Paths that match -/

/-- Whether a glyph makes a pattern stand for more than one text. -/
def Glyph.isMagic (glyph : Glyph) : Bool :=
  !glyph.quoted && (glyph.char == '*' || glyph.char == '?' || glyph.char == '[')

/-- The text of a pattern. -/
def plainText (pattern : List Glyph) : String :=
  String.ofList (pattern.map Glyph.char)

/-- The parts of a pattern between slashes. -/
def patternParts : List Glyph → List (List Glyph)
  | [] => [[]]
  | glyph :: rest =>
    if glyph.char = '/' then [] :: patternParts rest
    else
      match patternParts rest with
      | [] => [[glyph]]
      | part :: parts => (glyph :: part) :: parts

/-- The names in a directory that match a part of a pattern, sorted. A name that starts with a dot
matches only a pattern that does. -/
def namesLike (disk : Disk) (directory : String) (pattern : List Glyph) : List String :=
  match disk.locate (if directory = "" then "." else directory) with
  | .error _ => []
  | .ok place =>
    let startsWithDot := pattern.head?.map Glyph.char == some '.'
    let names := disk.names place ++ if startsWithDot then [".", ".."] else []
    let shown (name : String) : Bool :=
      (startsWithDot || name.toList.head? != some '.') && fitsPattern pattern name.toList
    (names.filter shown).mergeSort fun a b => a ≤ b

/-- The paths that match the parts of a pattern below what was matched so far. -/
def pathsLike (disk : Disk) : (found : String) → List (List Glyph) → List String
  | found, [] => if disk.holds found then [found] else []
  | found, [part] =>
    if part.any Glyph.isMagic then (namesLike disk found part).map (found ++ ·)
    else if disk.holds (found ++ plainText part) then [found ++ plainText part] else []
  | found, part :: parts =>
    if part.any Glyph.isMagic then
      (namesLike disk found part).flatMap fun name =>
        if disk.holdsDirectory (found ++ name) then pathsLike disk (found ++ name ++ "/") parts
        else []
    else pathsLike disk (found ++ plainText part ++ "/") parts

end HistoryExpansion.Shell
