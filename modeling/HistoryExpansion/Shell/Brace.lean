import HistoryExpansion.Shell.Word

/-!
# Alternatives within words

In the extended dialect a word with braces stands for several words: one for each of the texts
between commas, or for each number or letter of a range. This is done before anything in the word is
replaced, and braces that hold neither commas nor a range stand for themselves.
-/

namespace HistoryExpansion.Shell

/-- A part of a word as braces see it. -/
inductive Atom where
  /-- A character without quotes. -/
  | char (c : Char)
  /-- Anything else. -/
  | piece (piece : Piece)

namespace Atom

/-- The parts of a word. -/
def ofWord (word : Word) : List Atom :=
  word.flatMap fun
    | .text content false => content.toList.map Atom.char
    | other => [Atom.piece other]

/-- The word of some parts. -/
def toWord : List Atom → Word
  | [] => []
  | piece p :: rest => p :: toWord rest
  | char c :: rest =>
    match toWord rest with
    | .text content false :: word => .text (String.ofList [c] ++ content) false :: word
    | word => .text (String.ofList [c]) false :: word

/-- Whether a part is a given character. -/
def isChar (wanted : Char) : Atom → Bool
  | char c => c == wanted
  | piece _ => false

/-- The text that parts are, if they are all characters. -/
def text? (atoms : List Atom) : Option (List Char) :=
  atoms.mapM fun
    | char c => some c
    | piece _ => none

/-- Takes the texts between commas up to the brace that closes them. -/
def takeChoices : (depth : Nat) → (current : List Atom) → (found : List (List Atom)) → List Atom →
    Option (List (List Atom) × List Atom)
  | _, _, _, [] => none
  | depth, current, found, atom :: rest =>
    match atom, depth with
    | char '\x7b', depth => takeChoices (depth + 1) (atom :: current) found rest
    | char '\x7d', 0 => some ((current.reverse :: found).reverse, rest)
    | char '\x7d', depth + 1 => takeChoices depth (atom :: current) found rest
    | char ',', 0 => takeChoices 0 [] (current.reverse :: found) rest
    | atom, depth => takeChoices depth (atom :: current) found rest

/-- The whole number that a text is. -/
def integer? (text : List Char) : Option Int :=
  match text with
  | '-' :: digits => if isDigits digits then some (-(decimal digits : Int)) else none
  | '+' :: digits => if isDigits digits then some (decimal digits) else none
  | digits => if isDigits digits then some (decimal digits) else none
where
  /-- Whether a text is made of digits. -/
  isDigits (text : List Char) : Bool := !text.isEmpty && text.all isDigit

/-- The values from one on to another in steps. -/
def stepsBetween (first last : Int) (step : Nat) : List Int :=
  let step := max step 1
  let count := (last - first).natAbs / step + 1
  (List.range count).map fun (i : Nat) =>
    if first ≤ last then first + (i * step : Nat) else first - (i * step : Nat)

/-- The width that numbers of a range are filled to with zeros. -/
def widthOf (first last : List Char) : Nat :=
  let isPadded (text : List Char) : Bool :=
    let digits := text.dropWhile (· = '-')
    digits.length > 1 && digits.head? == some '0'
  if isPadded first || isPadded last then max first.length last.length else 0

/-- A number in a width. -/
def filled (width : Nat) (value : Int) : List Char :=
  let sign := if value < 0 then ['-'] else []
  let digits := (toString value.natAbs).toList
  sign ++ List.replicate (width - sign.length - digits.length) '0' ++ digits

/-- The parts of a text between runs of two dots. -/
def splitAtDots : List Char → List (List Char)
  | '.' :: '.' :: rest => [] :: splitAtDots rest
  | c :: rest =>
    match splitAtDots rest with
    | [] => [[c]]
    | part :: parts => (c :: part) :: parts
  | [] => [[]]

/-- The texts of a range. -/
def range? (text : List Char) : Option (List (List Char)) :=
  let between (first last : List Char) (step : Nat) : Option (List (List Char)) :=
    match integer? first, integer? last, first, last with
    | some a, some b, _, _ => some ((stepsBetween a b step).map (filled (widthOf first last)))
    | none, none, [a], [b] =>
      if a.isAlpha ∧ b.isAlpha then
        some ((stepsBetween a.toNat b.toNat step).map fun n => [Char.ofNat n.toNat])
      else none
    | _, _, _, _ => none
  match splitAtDots text with
  | [first, last] => between first last 1
  | [first, last, step] => (integer? step).bind fun step => between first last step.natAbs
  | _ => none

/-- The words that a word with alternatives stands for. -/
def alternatives : (fuel : Nat) → List Atom → List (List Atom)
  | 0, atoms => [atoms]
  | _, [] => [[]]
  | fuel + 1, atom :: rest =>
    let kept (_ : Unit) : List (List Atom) := (alternatives fuel rest).map (atom :: ·)
    if atom.isChar '\x7b' then
      match takeChoices 0 [] [] rest with
      | none => kept ()
      | some ([inner], behind) =>
        match (text? inner).bind range? with
        | some texts =>
          (texts.map (·.map char)).flatMap fun text =>
            (alternatives fuel behind).map (text ++ ·)
        | none => kept ()
      | some (choices, behind) =>
        (choices.flatMap (alternatives fuel)).flatMap fun choice =>
          (alternatives fuel behind).map (choice ++ ·)
    else kept ()

end Atom

/-- The words that a word with alternatives stands for. -/
def wordsOfBraces (word : Word) : List Word :=
  let atoms := Atom.ofWord word
  if atoms.any (Atom.isChar '\x7b') then
    (Atom.alternatives (atoms.length + 1) atoms).map Atom.toWord
  else [word]

end HistoryExpansion.Shell
