import HistoryExpansion.Config.Document
import HistoryExpansion.Proofs.Text.Blank
import Mathlib.Data.List.Forall2
import Mathlib.Data.Nat.Digits.Defs

/-!
# What scalars write

The scalars of a configuration document, as relations between a node and the value that it writes:
`WritesText`, `WritesPath` and `WritesWord`, where a number is a text of digits in one of four
bases. A scalar that writes a value is read as that value (`WritesText.text?`,
`WritesPath.optionalText?`, `WritesWord.word?`), and there is one for every value
(`writesText_quoted`, `exists_writesPath`, `exists_writesWord`).
-/

namespace HistoryExpansion.Config

open Yaml

/-! ## Lists side by side -/

/-- Each item has a partner in the list beside it. -/
theorem exists_mem_of_forall₂ {α β : Type} {R : α → β → Prop} {items : List α} {others : List β}
    (h : List.Forall₂ R items others) {item : α} (hitem : item ∈ items) :
    ∃ other ∈ others, R item other := by
  induction h with
  | nil => cases hitem
  | cons head _ ih =>
    cases hitem with
    | head => exact ⟨_, List.mem_cons_self, head⟩
    | tail _ hitem =>
      obtain ⟨other, hother, hrel⟩ := ih hitem
      exact ⟨other, List.mem_cons_of_mem _ hother, hrel⟩

/-- Reading items one by one gives what each of them is read as. -/
theorem mapM_eq_some_of_forall₂ {α β : Type} {read : α → Option β} {items : List α}
    {values : List β} (h : List.Forall₂ (fun item value => read item = some value) items values) :
    items.mapM read = some values := by
  induction h with
  | nil => rfl
  | cons head _ ih =>
    rw [List.mapM_cons, head, ih]
    rfl

/-! ## Texts -/

/-- A scalar that writes a text: it is marked as one, or it has no mark that asks for another kind
and does not stand for null. -/
inductive WritesText : Node → String → Prop
  | marked {style : Style} {text : String} : WritesText (.scalar (some .str) style text) text
  | free {tag : Option Tag} {style : Style} {text : String} (hfree : Node.isFree tag = true)
      (hnull : Node.isNull style text = false) : WritesText (.scalar tag style text) text

theorem WritesText.text? {node : Node} {text : String} (h : WritesText node text) :
    node.text? = some text := by
  cases h with
  | marked => rfl
  | @free tag style text hfree hnull =>
    rw [Node.text?, Node.scalarText?, hnull, hfree]
    split
    · rfl
    · have hbinary : tag ≠ some .binary := fun h => by rw [h] at hfree; cases hfree
      rw [if_neg Bool.false_ne_true, if_neg hbinary, if_pos rfl]

/-- Only a scalar of that very text writes it. -/
theorem WritesText.eq_scalar {node : Node} {text : String} (h : WritesText node text) :
    ∃ tag style, node = .scalar tag style text := by
  cases h with
  | marked => exact ⟨_, _, rfl⟩
  | free => exact ⟨_, _, rfl⟩

/-- A scalar that writes the path of a file, or null where no file is meant. -/
inductive WritesPath : Node → Option String → Prop
  | null {tag : Option Tag} {style : Style} {text : String}
      (h : tag = some .null ∨ Node.isNull style text = true) :
      WritesPath (.scalar tag style text) none
  | text {tag : Option Tag} {style : Style} {text : String}
      (h : WritesText (.scalar tag style text) text) (hnull : Node.isNull style text = false)
      (hquoted : text ≠ "" ∨ style = .single ∨ style = .double) :
      WritesPath (.scalar tag style text) (some text)

theorem WritesPath.optionalText? {node : Node} {path : Option String} (h : WritesPath node path) :
    optionalText? node = some path := by
  cases h with
  | null h =>
    rw [Config.optionalText?, if_pos]
    simpa only [Bool.or_eq_true, decide_eq_true_eq, or_assoc] using h.imp_right .inl
  | @text tag style text h hnull hquoted =>
    have htag : tag ≠ some .null := by
      cases h with
      | marked => nofun
      | free hfree => exact fun h => by rw [h] at hfree; cases hfree
    have hempty : (text == "" && style != .single && style != .double) = false := by
      rw [Bool.eq_false_iff]
      intro h
      simp only [Bool.and_eq_true, beq_iff_eq, bne_iff_ne] at h
      obtain ⟨⟨htext, hsingle⟩, hdouble⟩ := h
      exact hquoted.elim (· htext) (·.elim hsingle hdouble)
    rw [Config.optionalText?, hnull, hempty, if_neg (by simpa using htag), h.text?]
    rfl

/-! ## Numbers -/

/-- A text of digits of a base, from the highest on. Underscores between them do not count. -/
structure Digits (base : Nat) (text : List Char) (digits : List Nat) : Prop where
  ne_nil : digits ≠ []
  each : List.Forall₂ (fun c digit => hexValue? c = some digit ∧ digit < base)
    (text.filter (· ≠ '_')) digits

/-- A mark behind a zero that says in which base the digits behind it are. -/
inductive Marks : Char → Nat → Prop
  | hex : Marks 'x' 16
  | upperHex : Marks 'X' 16
  | octal : Marks 'o' 8
  | upperOctal : Marks 'O' 8
  | binary : Marks 'b' 2
  | upperBinary : Marks 'B' 2

/-- A text that writes a number without a sign. -/
inductive WritesNumeral : List Char → Nat → Prop
  | decimal {text : List Char} {digits : List Nat} (h : Digits 10 text digits) :
      WritesNumeral text (Nat.ofDigits 10 digits.reverse)
  | marked {mark : Char} {base : Nat} {text : List Char} {digits : List Nat}
      (hmark : Marks mark base) (h : Digits base text digits) :
      WritesNumeral ('0' :: mark :: text) (Nat.ofDigits base digits.reverse)

/-- A text that writes a number, which may have a plus sign. -/
inductive WritesNatural : List Char → Nat → Prop
  | unsigned {text : List Char} {number : Nat} (h : WritesNumeral text number) :
      WritesNatural text number
  | signed {text : List Char} {number : Nat} (h : WritesNumeral text number) :
      WritesNatural ('+' :: text) number

/-- A scalar that writes a 64-bit word, with or without blanks around it. -/
inductive WritesWord : Node → UInt64 → Prop
  | scalar {tag : Option Tag} {style : Style} {text : String} {value : UInt64}
      (h : WritesNatural (Text.trimmed text.toList) value.toNat) :
      WritesWord (.scalar tag style text) value

section Numbers

variable {base number : Nat} {text : List Char} {digits : List Nat}

/-- Going through digits from the highest on gives the number that they write. -/
theorem foldl_digits_eq_ofDigits (base : Nat) (digits : List Nat) :
    digits.foldl (fun number digit => number * base + digit) 0 =
      Nat.ofDigits base digits.reverse := by
  rw [Nat.ofDigits_eq_foldr, List.foldr_reverse]
  simp only [Nat.cast_id, Nat.add_comm, Nat.mul_comm]

theorem Digits.digits? (h : Digits base text digits) :
    digits? base text = some (Nat.ofDigits base digits.reverse) := by
  have hread : (text.filter (· ≠ '_')).mapM (digit? base) = some digits := by
    refine mapM_eq_some_of_forall₂ (h.each.imp ?_)
    intro c digit ⟨hvalue, hdigit⟩
    rw [digit?, hvalue]
    exact if_pos hdigit
  have hempty : (text.filter (· ≠ '_')).isEmpty = false := by
    rw [List.isEmpty_eq_false_iff]
    intro hnil
    have hlength := h.each.length_eq
    rw [hnil] at hlength
    exact h.ne_nil (List.eq_nil_of_length_eq_zero hlength.symm)
  rw [Config.digits?, hempty, if_neg Bool.false_ne_true, hread, ← foldl_digits_eq_ofDigits]
  rfl

/-- Every character of a text of digits is an underscore or a digit below the base. -/
theorem Digits.of_mem (h : Digits base text digits) {c : Char} (hc : c ∈ text) (hne : c ≠ '_') :
    ∃ digit, hexValue? c = some digit ∧ digit < base := by
  obtain ⟨digit, -, hdigit⟩ :=
    exists_mem_of_forall₂ h.each (List.mem_filter.2 ⟨hc, decide_eq_true hne⟩)
  exact ⟨digit, hdigit⟩

theorem Marks.not_decimal {mark : Char} (h : Marks mark base) :
    ¬∃ digit, hexValue? mark = some digit ∧ digit < 10 := by
  cases h <;> decide +kernel

/-- No number without a sign starts with one. -/
theorem WritesNumeral.ne_plus (h : WritesNumeral text number) (rest : List Char) :
    text ≠ '+' :: rest := by
  rintro rfl
  cases h with
  | decimal h =>
    obtain ⟨digit, hvalue, -⟩ := h.of_mem (c := '+') List.mem_cons_self (by decide)
    cases hvalue

/-- A plus sign in front does not count. -/
theorem natural?_plus (h : ∀ rest, text ≠ '+' :: rest) :
    natural? ('+' :: text) = natural? text := by
  by_cases hzero : ∃ c rest, text = '0' :: c :: rest
  · obtain ⟨c, rest, rfl⟩ := hzero
    rw [natural?.eq_1, natural?.eq_3]
  · have hplain : ∀ c rest, text ≠ '0' :: c :: rest := fun c rest h => hzero ⟨c, rest, h⟩
    rw [natural?.eq_2 _ hplain, natural?.eq_4 _ h hplain]

theorem WritesNumeral.natural? (h : WritesNumeral text number) : natural? text = some number := by
  have hplus := h.ne_plus
  cases h with
  | marked hmark h => cases hmark <;> exact h.digits?
  | decimal h =>
    rw [← h.digits?]
    by_cases hzero : ∃ c rest, text = '0' :: c :: rest
    · -- A mark behind the zero would be a decimal digit.
      obtain ⟨c, rest, rfl⟩ := hzero
      have hmark : ∀ base, Marks c base → False := fun base hmark =>
        hmark.not_decimal (h.of_mem (by simp) (by cases hmark <;> decide))
      rw [natural?.eq_3, if_neg, if_neg, if_neg]
      · rintro (rfl | rfl)
        · exact hmark _ .binary
        · exact hmark _ .upperBinary
      · rintro (rfl | rfl)
        · exact hmark _ .octal
        · exact hmark _ .upperOctal
      · rintro (rfl | rfl)
        · exact hmark _ .hex
        · exact hmark _ .upperHex
    · exact natural?.eq_4 _ hplus fun c rest h => hzero ⟨c, rest, h⟩

theorem WritesNatural.natural? (h : WritesNatural text number) : natural? text = some number := by
  cases h with
  | unsigned h => exact h.natural?
  | signed h => rw [natural?_plus h.ne_plus, h.natural?]

theorem WritesWord.word? {node : Node} {value : UInt64} (h : WritesWord node value) :
    word? node = some value := by
  cases h with
  | scalar h =>
    have hsize : value.toNat < UInt64.size := value.toNat_lt
    rw [Config.word?, h.natural?]
    dsimp only
    rw [if_pos hsize, Nat.toUInt64_eq, UInt64.ofNat_toNat]

end Numbers

/-! ## Every value can be written -/

/-- Every number is written by some decimal digits without blanks. -/
theorem exists_writesNumeral (number : Nat) :
    ∃ text, WritesNumeral text number ∧ ∀ c ∈ text, Text.isBlank c = false := by
  obtain ⟨digits, hne, hlt, rfl⟩ : ∃ digits : List Nat,
      digits ≠ [] ∧ (∀ digit ∈ digits, digit < 10) ∧ Nat.ofDigits 10 digits = number := by
    by_cases hzero : number = 0
    · exact ⟨[0], List.cons_ne_nil _ _, by decide, hzero.symm⟩
    · exact ⟨Nat.digits 10 number, Nat.digits_ne_nil_iff_ne_zero.2 hzero,
        fun _ => Nat.digits_lt_base (by decide), Nat.ofDigits_digits 10 number⟩
  have hchar : ∀ digit < 10, hexValue? digit.digitChar = some digit ∧ digit.digitChar ≠ '_' ∧
      Text.isBlank digit.digitChar = false := by decide +kernel
  have hlt' : ∀ digit ∈ digits.reverse, digit < 10 := fun digit h =>
    hlt digit (List.mem_reverse.1 h)
  refine ⟨digits.reverse.map Nat.digitChar, ?_, ?_⟩
  · have hkept : (digits.reverse.map Nat.digitChar).filter (· ≠ '_') =
        digits.reverse.map Nat.digitChar := by
      refine List.filter_eq_self.2 fun c hc => ?_
      obtain ⟨digit, hdigit, rfl⟩ := List.mem_map.1 hc
      exact decide_eq_true (hchar digit (hlt' digit hdigit)).2.1
    have hdigits : Digits 10 (digits.reverse.map Nat.digitChar) digits.reverse := by
      refine ⟨List.reverse_ne_nil_iff.2 hne, ?_⟩
      rw [hkept, List.forall₂_map_left_iff, List.forall₂_same]
      exact fun digit hdigit => ⟨(hchar digit (hlt' digit hdigit)).1, hlt' digit hdigit⟩
    have hdecimal := WritesNumeral.decimal hdigits
    rwa [List.reverse_reverse] at hdecimal
  · intro c hc
    obtain ⟨digit, hdigit, rfl⟩ := List.mem_map.1 hc
    exact (hchar digit (hlt' digit hdigit)).2.2

theorem exists_writesWord (value : UInt64) : ∃ node, WritesWord node value := by
  obtain ⟨text, hwrites, hblank⟩ := exists_writesNumeral value.toNat
  refine ⟨.scalar none .plain (String.ofList text), .scalar (.unsigned ?_)⟩
  rwa [String.toList_ofList, Text.trimmed_of_unbroken hblank]

/-- A text between double quotes is written, whatever it is. -/
theorem writesText_quoted (text : String) : WritesText (.scalar none .double text) text :=
  .free rfl rfl

theorem exists_writesPath (path : Option String) : ∃ node, WritesPath node path :=
  match path with
  | none => ⟨Node.blank, .null (.inr rfl)⟩
  | some text => ⟨.scalar none .double text, .text (writesText_quoted text) rfl (.inr (.inr rfl))⟩

end HistoryExpansion.Config
