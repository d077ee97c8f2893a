import HistoryExpansion.Expression

/-!
# The grammar of expressions

`Writes text expression` is the grammar of expressions as a relation, with one rule for each kind of
expression. `ofChars` reads exactly this grammar and takes every other text for plain
(`ofChars_eq_iff_writes`): the rules do not overlap, since a run of digits is no token of its own.
An expression that any text writes at all is *typable*, and then it is written by the form in which
it is typed (`writes_typed`). A number has further forms, with leading zeros or beyond the range of
signed words; the other expressions have no second one (`Writes.eq_typed`).
-/

namespace HistoryExpansion.Expression

/-! ## Numerals -/

/-- A text writes a number in base ten: a run of digits, perhaps after one minus sign. -/
inductive WritesNumber : List Char → Int → Prop
  | unsigned {digits : List Char} (h : isDigits digits = true) :
      WritesNumber digits (Nat.ofDigitChars 10 digits 0)
  | negated {digits : List Char} (h : isDigits digits = true) :
      WritesNumber ('-' :: digits) (-(Nat.ofDigitChars 10 digits 0 : Int))

theorem digitsValue_eq_ofDigitChars (digits : List Char) :
    digitsValue digits = Nat.ofDigitChars 10 digits 0 := by
  simp only [digitsValue, Nat.ofDigitChars, Nat.mul_comm]

/-- A character of a run of digits. -/
theorem isDigit_of_mem {digits : List Char} (h : isDigits digits = true) {c : Char}
    (hc : c ∈ digits) : isDigit c = true := by
  rw [isDigits, Bool.and_eq_true, List.all_eq_true] at h
  exact h.2 c hc

/-- **Numerals** are read as the numbers that they write. -/
theorem numeral?_eq_some_iff {text : List Char} {number : Int} :
    numeral? text = some number ↔ WritesNumber text number := by
  constructor
  · intro h
    unfold numeral? at h
    split at h
    · split at h
      · next hdigits =>
        cases h
        rw [digitsValue_eq_ofDigitChars]
        exact .negated hdigits
      · cases h
    · split at h
      · next hdigits =>
        cases h
        rw [digitsValue_eq_ofDigitChars]
        exact .unsigned hdigits
      · cases h
  · intro h
    cases h with
    | unsigned h =>
      unfold numeral?
      split
      · next digits =>
        have hminus : isDigit '-' = true := isDigit_of_mem h List.mem_cons_self
        exact absurd hminus (by decide)
      · rw [if_pos h, digitsValue_eq_ofDigitChars]
    | negated h =>
      rw [numeral?, if_pos h, digitsValue_eq_ofDigitChars]

theorem isDigits_toDigits (n : Nat) : isDigits (Nat.toDigits 10 n) = true := by
  rw [isDigits, Bool.and_eq_true, List.all_eq_true]
  refine ⟨?_, fun c hc => Nat.isDigit_of_mem_toDigits (by decide) (by decide) hc⟩
  rw [Bool.not_eq_true', List.isEmpty_eq_false_iff]
  exact Nat.toDigits_ne_nil

/-- The decimal form of a number writes it. -/
theorem writesNumber_toString (number : Int) : WritesNumber (toString number).toList number := by
  rw [Int.toString_eq_repr, Int.repr_eq_if]
  split
  · next h =>
    have hwrites := WritesNumber.unsigned (isDigits_toDigits number.toNat)
    rw [Nat.ofDigitChars_ten_toDigits, Int.toNat_of_nonneg h] at hwrites
    rwa [Nat.toList_repr]
  · next h =>
    have hwrites := WritesNumber.negated (isDigits_toDigits (-number).toNat)
    rw [Nat.ofDigitChars_ten_toDigits, Int.toNat_of_nonneg (by omega), Int.neg_neg] at hwrites
    rwa [String.toList_append, Nat.toList_repr]

/-! ## The grammar -/

/-- A text writes an expression that refers to a command. A number beyond the signed 64-bit range
stands for the nearest end of that range. -/
inductive Writes : List Char → Expression → Prop
  | last : Writes ['!'] last
  | index {text : List Char} {number : Int} (h : WritesNumber text number) :
      Writes text (index (Int64.ofIntClamp number))
  | beginning {token : String} (hword : isWord token.toList = true)
      (hdigits : isDigits token.toList = false) : Writes token.toList (beginning token)
  | containing {token : String} (h : isUnbroken token.toList = true) :
      Writes ('?' :: token.toList) (containing token)

theorem isWordChar_of_mem {word : List Char} (h : isWord word = true) {c : Char} (hc : c ∈ word) :
    isWordChar c = true := by
  rw [isWord, Bool.and_eq_true, List.all_eq_true] at h
  exact h.2 c hc

/-- A text with a character that no word has is no word. -/
theorem isWord_eq_false_of_mem {text : List Char} {c : Char} (hc : c ∈ text)
    (h : isWordChar c = false) : isWord text = false := by
  rw [Bool.eq_false_iff]
  intro hword
  rw [isWordChar_of_mem hword hc] at h
  cases h

theorem isWordChar_of_isDigit {c : Char} (h : isDigit c = true) : isWordChar c = true := by
  simp only [isWordChar, h, Bool.true_or]

theorem isWord_of_isDigits {digits : List Char} (h : isDigits digits = true) :
    isWord digits = true := by
  rw [isWord, Bool.and_eq_true, List.all_eq_true]
  refine ⟨?_, fun c hc => isWordChar_of_isDigit (isDigit_of_mem h hc)⟩
  rw [isDigits, Bool.and_eq_true] at h
  exact h.1

/-- The numerals are the runs of digits and the runs of digits behind a minus sign. -/
theorem numeral?_eq_none {text : List Char} (hdigits : isDigits text = false)
    (hminus : ∀ digits, text = '-' :: digits → isDigits digits = false) :
    numeral? text = none := by
  rw [Option.eq_none_iff_forall_ne_some]
  intro number h
  cases numeral?_eq_some_iff.1 h with
  | unsigned hunsigned =>
    rw [hunsigned] at hdigits
    cases hdigits
  | negated hnegated =>
    rw [hminus _ rfl] at hnegated
    cases hnegated

/-- `ofChars` reads what the grammar writes. -/
theorem Writes.ofChars_eq {text : List Char} {expression : Expression}
    (h : Writes text expression) : ofChars text = expression := by
  cases h with
  | last => rfl
  | index h =>
    have hread := numeral?_eq_some_iff.2 h
    have hbang : text ≠ ['!'] := by
      rintro rfl
      cases hread
    simp only [ofChars, if_neg hbang, hread]
  | @beginning token hword hdigits =>
    have hbang : token.toList ≠ ['!'] := fun heq => by
      rw [heq] at hword
      cases hword
    have hnone : numeral? token.toList = none := numeral?_eq_none hdigits fun digits heq => by
      rw [heq, isWord_eq_false_of_mem List.mem_cons_self (by decide)] at hword
      cases hword
    simp only [ofChars, if_neg hbang, hnone, if_pos hword, String.ofList_toList]
  | @containing token h =>
    have hbang : '?' :: token.toList ≠ ['!'] := fun heq =>
      absurd (List.cons.inj heq).1 (by decide)
    have hword : isWord ('?' :: token.toList) = false :=
      isWord_eq_false_of_mem List.mem_cons_self (by decide)
    have hdigits : isDigits ('?' :: token.toList) = false := by
      rw [Bool.eq_false_iff]
      intro hdigits
      rw [isWord_of_isDigits hdigits] at hword
      cases hword
    have hnone : numeral? ('?' :: token.toList) = none := numeral?_eq_none hdigits
      fun digits heq => absurd (List.cons.inj heq).1 (by decide)
    simp only [ofChars, if_neg hbang, hnone, hword, Bool.false_eq_true, ↓reduceIte, if_pos h,
      String.ofList_toList]

/-- What `ofChars` does not take for plain, the grammar writes. -/
theorem writes_or_plain (text : List Char) :
    Writes text (ofChars text) ∨ ofChars text = plain := by
  unfold ofChars
  split
  · next hbang => exact .inl (hbang ▸ .last)
  · split
    · next number hread => exact .inl (.index (numeral?_eq_some_iff.1 hread))
    · next hread =>
      split
      · next hword =>
        have hdigits : isDigits text = false := by
          rw [Bool.eq_false_iff]
          intro hdigits
          rw [numeral?_eq_some_iff.2 (.unsigned hdigits)] at hread
          cases hread
        have hwrites : Writes (String.ofList text).toList (beginning (String.ofList text)) :=
          .beginning (by rwa [String.toList_ofList]) (by rwa [String.toList_ofList])
        rw [String.toList_ofList] at hwrites
        exact .inl hwrites
      · split
        · next token _ _ =>
          split
          · next hunbroken =>
            have hwrites : Writes ('?' :: (String.ofList token).toList)
                (containing (String.ofList token)) := .containing (by rwa [String.toList_ofList])
            rw [String.toList_ofList] at hwrites
            exact .inl hwrites
          · exact .inr rfl
        · exact .inr rfl

/-- **The grammar of expressions** is what `ofChars` reads; every other text is plain. -/
theorem ofChars_eq_iff_writes {text : List Char} {expression : Expression}
    (h : expression ≠ plain) : ofChars text = expression ↔ Writes text expression := by
  constructor
  · rintro rfl
    exact (writes_or_plain text).resolve_right h
  · exact Writes.ofChars_eq

/-- Word characters stand between the first digit and the last small letter. -/
theorem toNat_of_isWordChar {c : Char} (h : isWordChar c = true) :
    '0'.toNat ≤ c.toNat ∧ c.toNat ≤ 'z'.toNat := by
  simp only [isWordChar, isDigit, Bool.or_eq_true, Bool.and_eq_true, decide_eq_true_eq, beq_iff_eq,
    Char.le_def, UInt32.le_iff_toNat_le, ← Char.toNat_inj] at h
  simp only [Char.toNat_val, Char.reduceToNat] at h ⊢
  omega

theorem isBlank_eq_false_of_isWordChar {c : Char} (h : isWordChar c = true) :
    Text.isBlank c = false := by
  have hrange := toNat_of_isWordChar h
  simp only [Char.reduceToNat] at hrange
  rw [Bool.eq_false_iff]
  intro hblank
  simp only [Text.isBlank, Text.blankRanges, List.any_cons, List.any_nil, Bool.or_eq_true,
    Bool.and_eq_true, decide_eq_true_eq, Bool.or_false] at hblank
  omega

/-! ## Typed forms -/

/-- An expression that can be typed at all. -/
def IsTypable : Expression → Prop
  | last => True
  | index _ => True
  | beginning token => isWord token.toList = true ∧ isDigits token.toList = false
  | containing token => isUnbroken token.toList = true
  | plain => False

/-- The form in which an expression is typed writes it. -/
theorem writes_typed {expression : Expression} (h : expression.IsTypable) :
    Writes expression.typed.toList expression := by
  cases expression with
  | last => exact .last
  | index number =>
    have hwrites := Writes.index (writesNumber_toString number.toInt)
    rwa [Int64.ofIntClamp_toInt] at hwrites
  | beginning token => exact .beginning h.1 h.2
  | containing token =>
    rw [typed, String.toList_append]
    exact .containing h
  | plain => cases h

namespace Writes

variable {text : List Char} {expression : Expression}

theorem isTypable (h : Writes text expression) : expression.IsTypable := by
  cases h with
  | last => trivial
  | index h => trivial
  | beginning hword hdigits => exact ⟨hword, hdigits⟩
  | containing h => exact h

/-- Only a number is written by another text than its typed form. -/
theorem eq_typed (h : Writes text expression) :
    text = expression.typed.toList ∨
      ∃ number, WritesNumber text number ∧ expression = .index (Int64.ofIntClamp number) := by
  cases h with
  | last => exact .inl rfl
  | index h => exact .inr ⟨_, h, rfl⟩
  | beginning hword hdigits => exact .inl rfl
  | containing h =>
    rw [typed, String.toList_append]
    exact .inl rfl

/-- A text that writes anything but a substring is made of word characters and the two signs. -/
theorem isWordChar_or_sign (h : Writes text expression)
    (hother : ∀ token, expression ≠ .containing token) {c : Char} (hc : c ∈ text) :
    isWordChar c = true ∨ c = '!' ∨ c = '-' := by
  cases h with
  | last => exact .inr (.inl (List.mem_singleton.1 hc))
  | index h =>
    cases h with
    | unsigned h => exact .inl (isWordChar_of_isDigit (isDigit_of_mem h hc))
    | negated h =>
      rcases List.mem_cons.1 hc with rfl | hc
      · exact .inr (.inr rfl)
      · exact .inl (isWordChar_of_isDigit (isDigit_of_mem h hc))
  | beginning hword hdigits => exact .inl (isWordChar_of_mem hword hc)
  | containing h => exact absurd rfl (hother _)

/-- Nothing that is written holds a blank. -/
theorem unbroken (h : Writes text expression) {c : Char} (hc : c ∈ text) :
    Text.isBlank c = false := by
  by_cases hcontaining : ∃ token, expression = .containing token
  · obtain ⟨token, rfl⟩ := hcontaining
    cases h with
    | containing h =>
      rw [isUnbroken, Bool.and_eq_true, List.all_eq_true] at h
      rcases List.mem_cons.1 hc with rfl | hc
      · decide
      · rw [← Bool.not_eq_true']
        exact h.2 c hc
  · rcases h.isWordChar_or_sign (fun token heq => hcontaining ⟨token, heq⟩) hc with h | rfl | rfl
    · exact isBlank_eq_false_of_isWordChar h
    · decide
    · decide

end Writes

end HistoryExpansion.Expression
