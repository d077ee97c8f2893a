import HistoryExpansion.Shell.Arithmetic
import HistoryExpansion.Text.Utf8

/-!
# Escapes

Text that is printed may hold characters behind a backslash that stand for others. What is printed
is octets: an escape may stand for one that is no character.
-/

namespace HistoryExpansion.Shell

/-! ## Escapes -/

/-- The escapes that a program knows beside the usual ones. -/
structure EscapeStyle where
  /-- Whether a zero may stand before three octal digits. -/
  longOctal : Bool := false
  /-- Whether the letter c ends the output. -/
  stops : Bool := false
  /-- Whether the letter x starts an octet in base sixteen, and a double quote stands for itself. -/
  extended : Bool := false

/-- What an escape stands for. -/
inductive Escaped where
  /-- Octets. -/
  | octets (octets : Octets)
  /-- The end of the output. -/
  | stop

/-- Takes at most some digits of a base. -/
def takeSomeDigits (base : Nat) : (most : Nat) → (value : Nat) → List Char → Nat × List Char
  | 0, value, text => (value, text)
  | _, value, [] => (value, [])
  | most + 1, value, c :: rest =>
    match digitValue? base c with
    | some digit => takeSomeDigits base most (value * base + digit) rest
    | none => (value, c :: rest)

/-- Whether a text starts with a digit of a base. -/
def startsWithDigit (base : Nat) (text : List Char) : Bool :=
  match text with
  | [] => false
  | c :: _ => (digitValue? base c).isSome

/-- Takes an escape, behind its backslash. What is no escape is kept with the backslash. -/
def takeEscape (style : EscapeStyle) (text : List Char) : Escaped × List Char :=
  let one (octet : UInt8) (rest : List Char) : Escaped × List Char := (.octets [octet], rest)
  match text with
  | [] => one 0x5C []
  | c :: rest =>
    match c with
    | 'a' => one 0x07 rest
    | 'b' => one 0x08 rest
    | 'f' => one 0x0C rest
    | 'n' => one 0x0A rest
    | 'r' => one 0x0D rest
    | 't' => one 0x09 rest
    | 'v' => one 0x0B rest
    | '\\' => one 0x5C rest
    | 'e' => one 0x1B rest
    | c =>
      if c = 'c' ∧ style.stops then (.stop, rest)
      else if c = '"' ∧ style.extended then one 0x22 rest
      else if c = 'x' ∧ style.extended ∧ startsWithDigit 16 rest then
        let (value, rest) := takeSomeDigits 16 2 0 rest
        one value.toUInt8 rest
      else if (c = 'u' ∨ c = 'U') ∧ style.extended ∧ startsWithDigit 16 rest then
        let (value, rest) := takeSomeDigits 16 (if c = 'u' then 4 else 8) 0 rest
        (.octets (Utf8.encode (numberedChar value)), rest)
      else if c = '0' ∧ style.longOctal then
        let (value, rest) := takeSomeDigits 8 3 0 rest
        one value.toUInt8 rest
      else if startsWithDigit 8 (c :: rest) then
        let (value, rest) := takeSomeDigits 8 3 0 (c :: rest)
        one value.toUInt8 rest
      else (.octets (0x5C :: Utf8.encodeChar c), rest)

/-- The octets of a text with its escapes, and whether one of them ended it. -/
def unescape (style : EscapeStyle) : (fuel : Nat) → List Char → Octets × Bool
  | 0, _ => ([], false)
  | _, [] => ([], false)
  | fuel + 1, '\\' :: rest =>
    match takeEscape style rest with
    | (.stop, _) => ([], true)
    | (.octets octets, rest) =>
      let (behind, stopped) := unescape style fuel rest
      (octets ++ behind, stopped)
  | fuel + 1, c :: rest =>
    let (behind, stopped) := unescape style fuel rest
    (Utf8.encodeChar c ++ behind, stopped)

/-! ## Echoes -/

/-- Texts with blanks between them and a line break behind them. Escapes count; only a first text
`-n` is an option, which leaves the line break out. -/
def echoed (texts : List String) : Octets :=
  let (texts, breaks) :=
    match texts with
    | "-n" :: rest => (rest, false)
    | texts => (texts, true)
  let text := (String.intercalate " " texts).toList
  let (octets, stopped) := unescape { longOctal := true, stops := true } (text.length + 1) text
  octets ++ if breaks && !stopped then [0x0A] else []

/-- Whether a text is an option of an echo with options. -/
def isEchoOption (text : String) : Bool :=
  match text.toList with
  | '-' :: letters => !letters.isEmpty && letters.all fun c => c == 'n' || c == 'e' || c == 'E'
  | _ => false

/-- Texts with blanks between them and a line break behind them. Escapes count only with the option
`-e`; `-n` leaves the line break out. -/
def echoedPlainly (texts : List String) : Octets :=
  let letters := (texts.takeWhile isEchoOption).flatMap fun option => option.toList.drop 1
  let texts := texts.dropWhile isEchoOption
  let escapes := (letters.filter (· ≠ 'n')).getLast? == some 'e'
  let text := (String.intercalate " " texts).toList
  let (octets, stopped) :=
    if escapes then
      unescape { longOctal := true, stops := true, extended := true } (text.length + 1) text
    else (Utf8.encode text, false)
  octets ++ if letters.contains 'n' || stopped then [] else [0x0A]

end HistoryExpansion.Shell
