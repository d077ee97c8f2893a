import HistoryExpansion.Shell.Pattern

/-!
# Fields

What a word becomes is cut into fields at the separators that were found in values, and each field
may then stand for the paths that it matches.
-/

namespace HistoryExpansion.Shell

/-- Where a character comes from. -/
inductive Origin where
  /-- It was written without quotes. -/
  | written
  /-- It was quoted, or found within quotes. -/
  | quoted
  /-- It was found in a value. -/
  | found
  deriving DecidableEq, Repr

/-- A part of what a word becomes. -/
inductive Bit where
  /-- A character. -/
  | char (c : Char) (origin : Origin)
  /-- Nothing, but quoted, so that there is a field. -/
  | nothing
  /-- The end of one of several fields. -/
  | boundary
  deriving DecidableEq, Repr

/-- A part of what a word within a parameter becomes: it is cut into fields too. -/
def Bit.asFound : Bit → Bit
  | .char c .written => .char c .found
  | bit => bit

/-- The parts that a text becomes. -/
def bitsOf (origin : Origin) (text : String) : List Bit :=
  if text = "" ∧ origin = .quoted then [.nothing] else text.toList.map fun c => .char c origin

/-- The pattern that parts are, taken as one field. -/
def glyphsOf (bits : List Bit) : List Glyph :=
  bits.filterMap fun
    | .char c origin => some ⟨c, origin == .quoted⟩
    | .nothing => none
    | .boundary => some ⟨' ', true⟩

/-- The text that parts are, taken as one field. -/
def textOf (bits : List Bit) : String :=
  plainText (glyphsOf bits)

/-- The separators if none are set. -/
def usualSeparators : String := " \t\n"

/-- Whether a separator is a blank, so that a run of it counts once. -/
def isBlankSeparator (c : Char) : Bool :=
  c == ' ' || c == '\t' || c == '\n'

/-- Cuts parts into fields. `current` is the field that is being read, if there is one, last
character first; `afterBlank` tells that the field before was ended by a blank. -/
def splitFrom (separators : List Char) : (current : Option (List Glyph)) → (afterBlank : Bool) →
    List Bit → List (List Glyph)
  | current, _, [] => (current.map List.reverse).toList
  | current, afterBlank, bit :: rest =>
    match bit with
    | .nothing => splitFrom separators (some (current.getD [])) false rest
    | .boundary => (current.map List.reverse).toList ++ splitFrom separators none false rest
    | .char c origin =>
      if origin = .found ∧ separators.contains c then
        match current with
        | some field => field.reverse :: splitFrom separators none (isBlankSeparator c) rest
        | none =>
          if isBlankSeparator c then splitFrom separators none afterBlank rest
          else if afterBlank then splitFrom separators none false rest
          else [] :: splitFrom separators none false rest
      else splitFrom separators (some (⟨c, origin == .quoted⟩ :: current.getD [])) false rest

/-- The fields of what a word becomes. -/
def fieldsOf (separators : String) (bits : List Bit) : List (List Glyph) :=
  splitFrom separators.toList none false bits

/-- The texts that a field stands for: the paths that it matches, or its own text. With the last
flag a pattern that matches none stands for nothing. -/
def textsOf (disk : Disk) (matchPaths dropsUnmatched : Bool) (field : List Glyph) : List String :=
  if matchPaths ∧ field.any Glyph.isMagic then
    match pathsLike disk "" (patternParts field) with
    | [] => if dropsUnmatched then [] else [plainText field]
    | paths => paths
  else [plainText field]

end HistoryExpansion.Shell
