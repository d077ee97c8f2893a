import HistoryExpansion.Shell.Escape
import HistoryExpansion.Shell.Floating

/-!
# Formats

A format is printed with further texts in place of its directives, each shown as its directive says.
It is gone through again as long as texts are left. What is wrong with a format or with a text is a
fault, which those that print word as they like.
-/

namespace HistoryExpansion.Shell

/-- How formats are printed. -/
structure PrintStyle where
  /-- The escapes. -/
  escapes : EscapeStyle
  /-- How numbers with a fraction are kept. -/
  binary : BinaryFormat
  /-- Whether letters that name a size may stand before the letter of a directive. -/
  sized : Bool := false
  /-- How texts are put in quotes, if there is a directive for that. -/
  quoting : Option (String → String) := none
  /-- Whether the directives for texts with escapes and with quotes are single letters. -/
  single : Bool := false

/-- What is wrong with a format or with a text that is to be shown. -/
inductive PrintFault where
  /-- A text is to be shown as a number and holds more than one, or none; the number may be out of
  range as well. -/
  | impure (text : String) (number outside : Bool)
  /-- A number is out of range. -/
  | outside (text : String)
  /-- Text behind a character that is shown as a number. -/
  | surplus (text : String)
  /-- A directive that there is not. -/
  | unknown (directive : String)
  /-- A directive that the format ends in. -/
  | cut (directive : String)

/-- How a text is shown. -/
structure Directive where
  /-- Whether it stands to the left of the blanks that fill its width. -/
  left : Bool := false
  /-- Whether a sign is always shown. -/
  sign : Bool := false
  /-- Whether a blank stands where a sign would. -/
  space : Bool := false
  /-- Whether zeros fill the width. -/
  zero : Bool := false
  /-- Whether the base, or a point with nothing behind it, is shown. -/
  marked : Bool := false
  /-- The least width. -/
  width : Nat := 0
  /-- The number of digits or characters. -/
  precision : Option Nat := none

/-- What was printed so far, what is left to be shown, and what went wrong. -/
structure Printing where
  /-- The octets, newest part last. -/
  output : Octets := []
  /-- The texts that are left. -/
  left : List String
  /-- Whether a text was shown. -/
  consumed : Bool := false
  /-- What went wrong. -/
  faults : List PrintFault := []
  /-- Whether the output was ended by an escape or by a directive that there is not. -/
  stopped : Bool := false

namespace Printing

/-- Adds octets. -/
def put (printing : Printing) (octets : Octets) : Printing :=
  { printing with output := printing.output ++ octets }

/-- Takes the next text that is to be shown. -/
def next (printing : Printing) : Option String × Printing :=
  match printing.left with
  | [] => (none, printing)
  | text :: rest => (some text, { printing with left := rest, consumed := true })

/-- Notes that something went wrong. -/
def noting (printing : Printing) (fault : Option PrintFault) : Printing :=
  { printing with faults := printing.faults ++ fault.toList }

/-- Ends the output for a fault. -/
def abandon (printing : Printing) (fault : PrintFault) : Printing :=
  { printing.noting (some fault) with stopped := true }

/-- Whether the format itself was at fault. -/
def isMisformed (printing : Printing) : Bool :=
  printing.faults.any fun
    | .unknown _ => true
    | .cut _ => true
    | _ => false

end Printing

/-! ## Numbers -/

/-- What is wrong with a number that is to be shown, by how much of the text it takes and whether it
is out of range. -/
def numberFault (text : String) (taken : Bool) (rest : List Char) (outside : Bool) :
    Option PrintFault :=
  if !rest.isEmpty then some (.impure text taken outside)
  else if outside then some (.outside text)
  else none

/-- The code of a character behind a quote, which is how a character is given as a number. -/
def quotedCode? (text : String) : Option (Nat × Option PrintFault) :=
  match text.toList with
  | quote :: c :: rest =>
    if quote = '\'' ∨ quote = '"' then
      some (((Utf8.encodeChar c).headD 0).toNat,
        if rest.isEmpty then none else some (.surplus (String.ofList rest)))
    else none
  | _ => none

/-- The whole number that a text to be shown is, held between two bounds. -/
def wholeToShow (least greatest : Int) (text : String) : Int × Option PrintFault :=
  match quotedCode? text with
  | some (code, fault) => (code, fault)
  | none =>
    let chars := text.toList
    let (negative, digits) :=
      match dropSpace chars with
      | '-' :: rest => (true, rest)
      | '+' :: rest => (false, rest)
      | rest => (false, rest)
    let (size, rest) := takeNumber digits
    let (size, rest) :=
      match digits with
      | '0' :: mark :: behind =>
        if (mark = 'x' ∨ mark = 'X') ∧ behind.length = rest.length then (0, mark :: behind)
        else (size, rest)
      | _ => (size, rest)
    let value : Int := if negative then -(size : Int) else size
    if digits.length = rest.length then (0, numberFault text false chars false)
    else if size > greatest.toNat ∧ !(negative ∧ least ≤ value) then
      (if negative ∧ least < 0 then least else greatest, numberFault text true rest true)
    else (value, numberFault text true rest false)

/-- The number that a text to be shown as a word with a sign is. -/
def signedToShow : String → Int × Option PrintFault :=
  wholeToShow (-(2 ^ 63)) (2 ^ 63 - 1)

/-- The number that a text to be shown as a word without a sign is; one below zero counts from the
end of the words. -/
def unsignedToShow (text : String) : Nat × Option PrintFault :=
  let (value, fault) := wholeToShow 0 (2 ^ 64 - 1) text
  ((value % 2 ^ 64).toNat, fault)

/-- The number with a fraction that a text to be shown is. -/
def floatingToShow (binary : BinaryFormat) (text : String) : Floating × Option PrintFault :=
  match quotedCode? text with
  | some (code, fault) => ((binary.scaled false code 10 0).1, fault)
  | none =>
    match binary.take? text.toList with
    | some (number, outside, rest) => (number, numberFault text true rest outside)
    | none => (.finite false 0, numberFault text false text.toList false)

/-! ## Directives -/

namespace Directive

/-- Fills octets up to a width. -/
def pad (directive : Directive) (octets : Octets) : Octets :=
  let blanks := List.replicate (directive.width - octets.length) (0x20 : UInt8)
  if directive.left then octets ++ blanks else blanks ++ octets

/-- Fills digits up to a width, with zeros between them and what stands before them or with blanks
around both. -/
def fill (directive : Directive) (zeros : Bool) (lead digits : String) : Octets :=
  let zeros :=
    if zeros ∧ directive.zero ∧ !directive.left then
      directive.width - lead.length - digits.length
    else 0
  directive.pad (Utf8.ofString (lead ++ String.ofList (List.replicate zeros '0') ++ digits))

/-- Shows digits with what stands before them; a precision is the least number of digits. -/
def digits (directive : Directive) (lead digits : String) : Octets :=
  let digits :=
    match directive.precision with
    | none => digits
    | some least =>
      if least = 0 ∧ digits = "0" then ""
      else String.ofList (List.replicate (least - digits.length) '0') ++ digits
  directive.fill directive.precision.isNone lead digits

/-- The sign before a number. -/
def signOf (directive : Directive) (negative : Bool) : String :=
  if negative then "-"
  else if directive.sign then "+"
  else if directive.space then " "
  else ""

/-- Shows a whole number in base ten. -/
def signed (directive : Directive) (value : Int) : Octets :=
  directive.digits (directive.signOf (value < 0)) (toString value.natAbs)

/-- Shows a number without a sign in a base; zero is the same in all of them. -/
def unsigned (directive : Directive) (mark : String) (base value : Nat) : Octets :=
  directive.digits (if directive.marked ∧ value ≠ 0 then mark else "")
    (String.ofList (Nat.toDigits base value))

/-- Shows a number with a fraction. -/
def floating (directive : Directive) (binary : BinaryFormat) (conversion : Char)
    (number : Floating) : Octets :=
  let text :=
    binary.text conversion.toLower (directive.precision.getD 6) directive.marked number
  let finite :=
    match number with
    | .finite _ _ => true
    | _ => false
  directive.fill finite (directive.signOf number.negative)
    (if conversion.isUpper then text.toUpper else text)

end Directive

/-- Shows the next text as a directive says; a text that is missing is empty. -/
def Printing.present (printing : Printing) (style : PrintStyle) (directive : Directive)
    (conversion : Char) : Printing :=
  let (text, printing) := printing.next
  let text := text.getD ""
  let cut (octets : Octets) : Octets := (directive.precision.map octets.take).getD octets
  let word (render : Nat → Octets) : Printing :=
    let (value, fault) := unsignedToShow text
    (printing.put (render value)).noting fault
  match conversion with
  | 's' => printing.put (directive.pad (cut (Utf8.ofString text)))
  | 'c' => printing.put (directive.pad [(Utf8.ofString text).headD 0])
  | 'b' =>
    let escapes := { style.escapes with longOctal := true, stops := true }
    let (octets, stopped) := unescape escapes (text.length + 1) text.toList
    { printing.put (directive.pad (cut octets)) with stopped := stopped }
  | 'q' =>
    let quoted := (style.quoting.map (· text)).getD text
    printing.put (directive.pad (cut (Utf8.ofString quoted)))
  | 'o' => word (directive.unsigned "0" 8)
  | 'x' => word (directive.unsigned "0x" 16)
  | 'X' => word fun value => (directive.unsigned "0X" 16 value).map fun octet =>
      if 0x61 ≤ octet ∧ octet ≤ 0x66 then octet - 0x20 else octet
  | 'u' => word (directive.unsigned "" 10)
  | _ =>
    if conversion = 'd' ∨ conversion = 'i' then
      let (value, fault) := signedToShow text
      (printing.put (directive.signed value)).noting fault
    else
      let (number, fault) := floatingToShow style.binary text
      (printing.put (directive.floating style.binary conversion number)).noting fault

/-! ## Printing -/

/-- Takes the flags of a directive. -/
def takeFlags (directive : Directive) : List Char → Directive × List Char
  | '-' :: rest => takeFlags { directive with left := true } rest
  | '+' :: rest => takeFlags { directive with sign := true } rest
  | ' ' :: rest => takeFlags { directive with space := true } rest
  | '0' :: rest => takeFlags { directive with zero := true } rest
  | '#' :: rest => takeFlags { directive with marked := true } rest
  | '\'' :: rest => takeFlags directive rest
  | rest => (directive, rest)

/-- Takes a number of a directive; a star stands for the next text. -/
def takeMeasure (printing : Printing) (text : List Char) : Int × Printing × List Char :=
  match text with
  | '*' :: rest =>
    let (value, printing) := printing.next
    let (value, fault) := (value.map signedToShow).getD (0, none)
    (value, printing.noting fault, rest)
  | text =>
    let (value, rest) := takeDigits 10 0 text
    (value, printing, rest)

/-- Takes the width and the precision of a directive. -/
def takeMeasures (printing : Printing) (directive : Directive) (text : List Char) :
    Directive × Printing × List Char :=
  let (width, printing, rest) := takeMeasure printing text
  let directive := { directive with width := width.natAbs, left := directive.left || width < 0 }
  match rest with
  | '.' :: rest =>
    let (precision, printing, rest) := takeMeasure printing rest
    ({ directive with precision := if precision < 0 then none else some precision.toNat },
      printing, rest)
  | rest => (directive, printing, rest)

/-- Goes through a format once. -/
def printOnce (style : PrintStyle) : (fuel : Nat) → Printing → List Char → Printing
  | 0, printing, _ => printing
  | _, printing, [] => printing
  | fuel + 1, printing, '\\' :: rest =>
    match takeEscape style.escapes rest with
    | (.stop, _) => { printing with stopped := true }
    | (.octets octets, rest) => printOnce style fuel (printing.put octets) rest
  | fuel + 1, printing, '%' :: '%' :: rest => printOnce style fuel (printing.put [0x25]) rest
  | fuel + 1, printing, '%' :: rest =>
    let (directive, behind) := takeFlags {} rest
    let (directive, printing, behind) := takeMeasures printing directive behind
    let behind :=
      if style.sized then behind.dropWhile fun c =>
        "hlLjzt".toList.contains c || (c == 'q' && style.quoting.isNone)
      else behind
    let read := "%" ++ String.ofList (rest.take (rest.length + 1 - behind.length))
    match behind with
    | c :: rest =>
      let known :=
        "sbcdiouxXeEfFgG".toList.contains c || (c == 'q' && style.quoting.isSome)
      let alone := style.single && (c == 'b' || c == 'q') && read.length > 2
      if known && !alone then
        let printing := printing.present style directive c
        if printing.stopped then printing else printOnce style fuel printing rest
      else printing.abandon (.unknown read)
    | [] => printing.abandon (.cut read)
  | fuel + 1, printing, c :: rest =>
    printOnce style fuel (printing.put (Utf8.encodeChar c)) rest

/-- Goes through a format again as long as there are texts to show. -/
def printAll (style : PrintStyle) (format : List Char) : (fuel : Nat) → Printing → Printing
  | 0, printing => printing
  | fuel + 1, printing =>
    let printing := printOnce style (format.length + 1) { printing with consumed := false } format
    if printing.stopped ∨ printing.left.isEmpty ∨ !printing.consumed then printing
    else printAll style format fuel printing

/-- What texts print in a format. -/
def formatted (style : PrintStyle) (format : String) (texts : List String) : Printing :=
  printAll style format.toList (texts.length + 1) { left := texts }

end HistoryExpansion.Shell
