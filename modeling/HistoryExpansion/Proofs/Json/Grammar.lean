import HistoryExpansion.Proofs.Json.Reader

/-!
# The JSON grammar

What a JSON text says, apart from how it is read: `Writes text value` holds if the text is written
for the value, with no spaces around it. The rules are those of RFC 8259, from the spaces between
tokens to members and lists. A literal stands for UTF-16 code units and not for characters, since
an escape may name half of a surrogate pair on its own; it stands for a text if its units are that
text's (`units`). Every value begins with a character that is neither a space nor a closing bracket:
`Writes.starts`.
-/

namespace HistoryExpansion.Json

/-- Characters that may stand between tokens. -/
def Spaces (text : List Char) : Prop :=
  ∀ c ∈ text, c ∈ [' ', '\n', '\t', '\r']

/-! ## Numbers -/

/-- One or more digits. -/
def Digits (text : List Char) : Prop :=
  text ≠ [] ∧ ∀ c ∈ text, '0' ≤ c ∧ c ≤ '9'

/-- The integer part of a number, which has no zero in front. -/
def Integer (text : List Char) : Prop :=
  text = ['0'] ∨ Digits text ∧ text.head? ≠ some '0'

/-- The decimals of a number, if it has any. -/
def Fraction (text : List Char) : Prop :=
  text = [] ∨ ∃ digits, text = '.' :: digits ∧ Digits digits

/-- The exponent of a number, if it has one. -/
def Exponent (text : List Char) : Prop :=
  text = [] ∨ ∃ letter ∈ ['e', 'E'], ∃ sign ∈ [[], ['+'], ['-']], ∃ digits,
    text = letter :: (sign ++ digits) ∧ Digits digits

/-- A number from behind its sign on. -/
def Unsigned (text : List Char) : Prop :=
  ∃ integer fraction exponent, text = integer ++ (fraction ++ exponent) ∧
    Integer integer ∧ Fraction fraction ∧ Exponent exponent

/-- A number. -/
def Number (text : List Char) : Prop :=
  ∃ sign ∈ [[], ['-']], ∃ digits, text = sign ++ digits ∧ Unsigned digits

/-! ## Literals -/

/-- The UTF-16 code units of a character. -/
def charUnits (c : Char) : List Nat :=
  if c.toNat < 0x10000 then [c.toNat]
  else [0xD800 + (c.toNat - 0x10000) / 0x400, 0xDC00 + (c.toNat - 0x10000) % 0x400]

/-- The UTF-16 code units of a text. -/
def units (text : List Char) : List Nat :=
  text.flatMap charUnits

/-- A hexadecimal digit and its value, in either case. -/
def HexDigit (c : Char) (value : Nat) : Prop :=
  "0123456789abcdef".toList[value]? = some c ∨ "0123456789ABCDEF".toList[value]? = some c

/-- The letters that a character may be escaped with, each with its character. -/
def escapes : List (Char × Char) :=
  [('"', '"'), ('\\', '\\'), ('/', '/'), ('b', '\x08'), ('f', '\x0c'), ('n', '\n'), ('r', '\r'),
    ('t', '\t')]

/-- A character of a literal or one of its escapes, and the units that it stands for. -/
inductive Spells : List Char → List Nat → Prop
  | plain {c : Char} (hquote : c ≠ '"') (hslash : c ≠ '\\') (hcontrol : 0x20 ≤ c.toNat) :
      Spells [c] (charUnits c)
  | letter {letter c : Char} (h : (letter, c) ∈ escapes) : Spells ['\\', letter] (charUnits c)
  | unit {a b c d : Char} {p q r s : Nat} (ha : HexDigit a p) (hb : HexDigit b q)
      (hc : HexDigit c r) (hd : HexDigit d s) :
      Spells ['\\', 'u', a, b, c, d] [((p * 16 + q) * 16 + r) * 16 + s]

/-- What stands between the quotes of a literal, and the units that it stands for. -/
inductive SpellsAll : List Char → List Nat → Prop
  | nil : SpellsAll [] []
  | cons {piece text : List Char} {first others : List Nat} (hpiece : Spells piece first)
      (htext : SpellsAll text others) : SpellsAll (piece ++ text) (first ++ others)

/-- A literal and the units that it stands for. -/
def Literal (text : List Char) (found : List Nat) : Prop :=
  ∃ body, text = '"' :: (body ++ ['"']) ∧ SpellsAll body found

/-! ## Lists and objects -/

/-- Items that are set apart by a comma, which may have spaces around it. -/
inductive Items {α : Type} (item : List Char → α → Prop) : List Char → List α → Prop
  | last {written : List Char} {value : α} (h : item written value) : Items item written [value]
  | next {written before behind text : List Char} {value : α} {values : List α}
      (h : item written value) (hbefore : Spaces before) (hbehind : Spaces behind)
      (hitems : Items item text values) :
      Items item (written ++ (before ++ ',' :: (behind ++ text))) (value :: values)

/-- Any number of items between two brackets, which may have spaces inside of them. -/
inductive Bracketed {α : Type} (opening closing : Char) (item : List Char → α → Prop) :
    List Char → List α → Prop
  | empty {space : List Char} (hspace : Spaces space) :
      Bracketed opening closing item (opening :: (space ++ [closing])) []
  | full {lead text trail : List Char} {values : List α} (hlead : Spaces lead)
      (htrail : Spaces trail) (hitems : Items item text values) :
      Bracketed opening closing item (opening :: (lead ++ (text ++ (trail ++ [closing])))) values

/-- What a JSON text says. The keys of an object keep their order and may come more than once. -/
inductive Value where
  | null
  | boolean (value : Bool)
  | number (text : List Char)
  | string (found : List Nat)
  | list (items : List Value)
  | object (members : List (List Nat × Value))

/-- A key and a value with a colon between them, which may have spaces around it. -/
inductive Member (value : List Char → Value → Prop) : List Char → List Nat × Value → Prop
  | mk {key before behind written : List Char} {found : List Nat} {said : Value}
      (hkey : Literal key found) (hbefore : Spaces before) (hbehind : Spaces behind)
      (hvalue : value written said) :
      Member value (key ++ (before ++ ':' :: (behind ++ written))) (found, said)

/-- A text is written for a value. -/
inductive Writes : List Char → Value → Prop
  | null : Writes ['n', 'u', 'l', 'l'] .null
  | true : Writes ['t', 'r', 'u', 'e'] (.boolean true)
  | false : Writes ['f', 'a', 'l', 's', 'e'] (.boolean false)
  | number {text : List Char} (h : Number text) : Writes text (.number text)
  | string {text : List Char} {found : List Nat} (h : Literal text found) :
      Writes text (.string found)
  | list {text : List Char} {items : List Value} (h : Bracketed '[' ']' Writes text items) :
      Writes text (.list items)
  | object {text : List Char} {members : List (List Nat × Value)}
      (h : Bracketed '\x7b' '\x7d' (Member Writes) text members) : Writes text (.object members)

/-! ## First characters -/

theorem isSpace_iff {c : Char} : isSpace c = true ↔ c ∈ [' ', '\n', '\t', '\r'] := by
  simp only [isSpace, Bool.or_eq_true, beq_iff_eq, List.mem_cons, List.not_mem_nil, or_false,
    or_assoc]

theorem isDigit_iff {c : Char} : isDigit c = true ↔ '0' ≤ c ∧ c ≤ '9' := by
  simp only [isDigit, Bool.and_eq_true, decide_eq_true_eq]

theorem isSpace_of_isDigit {c : Char} (h : isDigit c = true) : isSpace c = false := by
  refine Bool.eq_false_iff.2 fun hspace => ?_
  have hmem := isSpace_iff.1 hspace
  simp only [List.mem_cons, List.not_mem_nil, or_false] at hmem
  rcases hmem with rfl | rfl | rfl | rfl <;> exact absurd h (by decide)

theorem StartsItem.of_isDigit {c : Char} (h : isDigit c = true) (tail : List Char) :
    StartsItem (c :: tail) := by
  refine ⟨c, tail, rfl, isSpace_of_isDigit h, ?_⟩
  rintro rfl
  exact absurd h (by decide)

theorem Digits.exists_cons {text : List Char} (h : Digits text) :
    ∃ c tail, text = c :: tail ∧ isDigit c = true := by
  obtain ⟨c, tail, rfl⟩ := List.exists_cons_of_ne_nil h.1
  exact ⟨c, tail, rfl, isDigit_iff.2 (h.2 c List.mem_cons_self)⟩

theorem Unsigned.exists_cons {text : List Char} (h : Unsigned text) :
    ∃ c tail, text = c :: tail ∧ isDigit c = true := by
  obtain ⟨integer, fraction, exponent, rfl, rfl | ⟨hdigits, -⟩, -, -⟩ := h
  · exact ⟨'0', _, rfl, by decide⟩
  · obtain ⟨c, tail, rfl, hc⟩ := hdigits.exists_cons
    exact ⟨c, _, rfl, hc⟩

/-- Items begin as the first of them does. -/
theorem Items.starts {α : Type} {item : List Char → α → Prop}
    (hstarts : ∀ {written : List Char} {value : α}, item written value → StartsItem written)
    {text : List Char} {values : List α} (h : Items item text values) : StartsItem text := by
  cases h with
  | last h => exact hstarts h
  | next h => exact (hstarts h).append _

theorem Bracketed.exists_cons {α : Type} {opening closing : Char} {item : List Char → α → Prop}
    {text : List Char} {values : List α} (h : Bracketed opening closing item text values) :
    ∃ tail, text = opening :: tail := by
  cases h with
  | empty => exact ⟨_, rfl⟩
  | full => exact ⟨_, rfl⟩

/-- **A value begins** with neither a space nor a closing bracket. -/
theorem Writes.starts {text : List Char} {value : Value} (h : Writes text value) :
    StartsItem text := by
  cases h with
  | null => exact ⟨'n', _, rfl, by decide, by decide⟩
  | true => exact ⟨'t', _, rfl, by decide, by decide⟩
  | false => exact ⟨'f', _, rfl, by decide, by decide⟩
  | number h =>
    obtain ⟨sign, hsign, digits, rfl, hdigits⟩ := h
    obtain ⟨c, tail, rfl, hc⟩ := hdigits.exists_cons
    simp only [List.mem_cons, List.not_mem_nil, or_false] at hsign
    rcases hsign with rfl | rfl
    · exact .of_isDigit hc tail
    · exact ⟨'-', _, rfl, by decide, by decide⟩
  | string h =>
    obtain ⟨body, rfl, -⟩ := h
    exact ⟨'"', _, rfl, by decide, by decide⟩
  | list h =>
    obtain ⟨tail, rfl⟩ := h.exists_cons
    exact ⟨'[', tail, rfl, by decide, by decide⟩
  | object h =>
    obtain ⟨tail, rfl⟩ := h.exists_cons
    exact ⟨'\x7b', tail, rfl, by decide, by decide⟩

end HistoryExpansion.Json
