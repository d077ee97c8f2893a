/-!
# Blank characters

A character is *blank* when it has the Unicode property `White_Space`. Messages are trimmed of
blanks, a substring token holds none, and a trigger that held one could never be typed.
-/

namespace HistoryExpansion.Text

/-- The code points with the Unicode property `White_Space`, as closed ranges in rising order. -/
def blankRanges : List (Nat × Nat) :=
  [(0x09, 0x0D), (0x20, 0x20), (0x85, 0x85), (0xA0, 0xA0), (0x1680, 0x1680), (0x2000, 0x200A),
    (0x2028, 0x2029), (0x202F, 0x202F), (0x205F, 0x205F), (0x3000, 0x3000)]

/-- Whether a character has the property `White_Space`. -/
def isBlank (c : Char) : Bool :=
  blankRanges.any fun range => range.1 ≤ c.toNat && c.toNat ≤ range.2

/-- The text without the blanks it starts with. -/
def dropLeadingBlanks (text : List Char) : List Char :=
  text.dropWhile isBlank

/-- The text without the blanks it ends in. -/
def dropTrailingBlanks (text : List Char) : List Char :=
  (text.reverse.dropWhile isBlank).reverse

/-- The text without the blanks around it. -/
def trimmed (text : List Char) : List Char :=
  dropTrailingBlanks (dropLeadingBlanks text)

/-- The string without the blanks around it. -/
def trim (text : String) : String :=
  String.ofList (trimmed text.toList)

/-- What follows `lead` in a text that starts with it. -/
def after? : (lead text : List Char) → Option (List Char)
  | [], text => some text
  | _ :: _, [] => none
  | l :: lead, c :: text => if l = c then after? lead text else none

/-- What stands before `tail` in a text that ends in it. -/
def before? (tail text : List Char) : Option (List Char) :=
  (after? tail.reverse text.reverse).map List.reverse

/-- Whether `part` occurs in `text` as a run of neighbouring characters. -/
def occursIn (part : List Char) : List Char → Bool
  | [] => part.isEmpty
  | c :: text => part.isPrefixOf (c :: text) || occursIn part text

/-- The pieces of a text between the occurrences of a separator; always at least one. -/
def splitAtEach (separator : Char) : List Char → List (List Char)
  | [] => [[]]
  | c :: text =>
    match splitAtEach separator text with
    | [] => [[]]
    | piece :: pieces =>
      if c = separator then [] :: piece :: pieces else (c :: piece) :: pieces

/-- Text is a fixed point of `after?` without a lead. -/
@[simp] theorem after?_nil (text : List Char) : after? [] text = some text := rfl

/-- `after?` finds exactly the ways to write a text as the lead and a rest. -/
theorem after?_eq_some_iff {lead text rest : List Char} :
    after? lead text = some rest ↔ text = lead ++ rest := by
  induction lead generalizing text with
  | nil => simp [eq_comm]
  | cons l lead ih =>
    cases text with
    | nil => simp [after?]
    | cons c text =>
      by_cases h : l = c
      · simp [after?, h, ih]
      · simp [after?, h, Ne.symm h]

/-- `before?` finds exactly the ways to write a text as a rest and the tail. -/
theorem before?_eq_some_iff {tail text rest : List Char} :
    before? tail text = some rest ↔ text = rest ++ tail := by
  simp only [before?, Option.map_eq_some_iff, after?_eq_some_iff]
  constructor
  · rintro ⟨reversed, h, rfl⟩
    have := congrArg List.reverse h
    simpa using this
  · rintro rfl
    exact ⟨rest.reverse, by simp, by simp⟩

end HistoryExpansion.Text
