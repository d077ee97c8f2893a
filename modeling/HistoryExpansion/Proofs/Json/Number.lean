import HistoryExpansion.Proofs.Json.Grammar
import Mathlib.Data.List.TakeWhile

/-!
# Numbers are passed over by the grammar

A number ends where nothing that could go on with it stands behind it (`Stops`). Up to there,
passing over a number takes what the grammar calls one, part by part from the last: the exponent,
the decimals, the integer part (`unsigned_of_skipNumber`, `skipNumber_append`).
-/

namespace HistoryExpansion.Json

/-! ## Digits -/

/-- Digits are taken from the front as long as there are any. -/
theorem exists_digits {c : Char} (hc : isDigit c = true) (rest : List Char) :
    ∃ digits, c :: rest = digits ++ rest.dropWhile isDigit ∧ Digits digits ∧
      digits.head? = some c := by
  refine ⟨c :: rest.takeWhile isDigit, ?_, ⟨List.cons_ne_nil _ _, fun d hd => ?_⟩, rfl⟩
  · rw [List.cons_append, List.takeWhile_append_dropWhile]
  · rcases List.mem_cons.1 hd with rfl | hd
    · exact isDigit_iff.1 hc
    · exact isDigit_iff.1 (List.mem_takeWhile_imp hd)

/-- No digit stands in front. -/
def NoDigit (text : List Char) : Prop :=
  ∀ c ∈ text.head?, isDigit c = false

theorem dropWhile_digits {digits rest : List Char} (h : Digits digits) (hrest : NoDigit rest) :
    (digits ++ rest).dropWhile isDigit = rest := by
  rw [List.dropWhile_append_of_pos fun c hc => isDigit_iff.2 (h.2 c hc)]
  cases rest with
  | nil => rfl
  | cons c rest => exact List.dropWhile_cons_of_neg (Bool.eq_false_iff.1 (hrest c rfl))

/-- Nothing stands in front that could go on with a number. -/
def Stops (text : List Char) : Prop :=
  ∀ c ∈ text.head?, isDigit c = false ∧ c ≠ '.' ∧ c ≠ 'e' ∧ c ≠ 'E'

theorem Stops.noDigit {text : List Char} (h : Stops text) : NoDigit text :=
  fun c hc => (h c hc).1

/-! ## Exponents -/

/-- Behind a sign, if there is one, an exponent is one run of digits. -/
theorem skipExponent_eq (text : List Char) :
    ∃ sign ∈ [[], ['+'], ['-']], ∃ digits, text = sign ++ digits ∧
      skipExponent text = if digits.head?.any isDigit then .ok (digits.tail.dropWhile isDigit)
        else .error .malformed := by
  unfold skipExponent
  split
  · next digits => exact ⟨['+'], by decide, digits, rfl, by cases digits <;> rfl⟩
  · next digits => exact ⟨['-'], by decide, digits, rfl, by cases digits <;> rfl⟩
  · exact ⟨[], by decide, text, rfl, by cases text <;> rfl⟩

theorem exponent_of_skipExponent {letter : Char} (hletter : letter ∈ ['e', 'E'])
    {text rest : List Char} (h : skipExponent text = .ok rest) :
    ∃ exponent, letter :: text = exponent ++ rest ∧ Exponent exponent := by
  obtain ⟨sign, hsign, digits, rfl, heq⟩ := skipExponent_eq text
  rw [heq] at h
  split at h
  · next hhead =>
    cases h
    cases digits with
    | nil => cases hhead
    | cons c tail =>
      obtain ⟨digits, htail, hdigits, -⟩ := exists_digits hhead tail
      refine ⟨letter :: (sign ++ digits), ?_,
        .inr ⟨letter, hletter, sign, hsign, digits, rfl, hdigits⟩⟩
      rw [List.tail_cons, htail, List.cons_append, List.append_assoc]
  · cases h

theorem skipExponent_append {sign digits rest : List Char} (hsign : sign ∈ [[], ['+'], ['-']])
    (hdigits : Digits digits) (hrest : NoDigit rest) :
    skipExponent (sign ++ (digits ++ rest)) = .ok rest := by
  obtain ⟨c, tail, rfl, hc⟩ := hdigits.exists_cons
  have hdrop := dropWhile_digits hdigits hrest
  rw [List.cons_append, List.dropWhile_cons_of_pos hc] at hdrop
  simp only [List.mem_cons, List.not_mem_nil, or_false] at hsign
  rcases hsign with rfl | rfl | rfl
  · have hplus : c ≠ '+' := fun h => absurd (h ▸ hc) (by decide)
    have hminus : c ≠ '-' := fun h => absurd (h ▸ hc) (by decide)
    unfold skipExponent
    split
    · next heq => exact absurd (List.cons.inj heq).1 hplus
    · next heq => exact absurd (List.cons.inj heq).1 hminus
    · simp only [List.cons_append, List.nil_append, hc, ↓reduceIte, hdrop]
  · simp only [List.cons_append, List.nil_append, skipExponent, hc, ↓reduceIte, hdrop]
  · simp only [List.cons_append, List.nil_append, skipExponent, hc, ↓reduceIte, hdrop]

theorem exponent_of_skipExponent? {text rest : List Char} (h : skipExponent? text = .ok rest) :
    ∃ exponent, text = exponent ++ rest ∧ Exponent exponent := by
  unfold skipExponent? at h
  split at h
  · exact exponent_of_skipExponent (by decide) h
  · exact exponent_of_skipExponent (by decide) h
  · cases h
    exact ⟨[], rfl, .inl rfl⟩

theorem skipExponent?_append {exponent rest : List Char} (h : Exponent exponent)
    (hrest : Stops rest) : skipExponent? (exponent ++ rest) = .ok rest := by
  rcases h with rfl | ⟨letter, hletter, sign, hsign, digits, rfl, hdigits⟩
  · unfold skipExponent?
    rw [List.nil_append]
    split
    · exact absurd rfl (hrest 'e' rfl).2.2.1
    · exact absurd rfl (hrest 'E' rfl).2.2.2
    · rfl
  · have hdigits := skipExponent_append hsign hdigits hrest.noDigit
    rw [List.cons_append, List.append_assoc]
    simp only [List.mem_cons, List.not_mem_nil, or_false] at hletter
    rcases hletter with rfl | rfl <;> exact hdigits

/-- An exponent begins with its letter. -/
theorem Exponent.head_append {exponent rest : List Char} (h : Exponent exponent)
    (hrest : Stops rest) : ∀ c ∈ (exponent ++ rest).head?, isDigit c = false ∧ c ≠ '.' := by
  rcases h with rfl | ⟨letter, hletter, sign, -, digits, rfl, -⟩
  · exact fun c hc => ⟨(hrest c hc).1, (hrest c hc).2.1⟩
  · rintro c hc
    cases hc
    simp only [List.mem_cons, List.not_mem_nil, or_false] at hletter
    rcases hletter with rfl | rfl <;> decide

/-! ## Decimals -/

theorem fraction_of_skipFraction? {text rest : List Char} (h : skipFraction? text = .ok rest) :
    ∃ fraction exponent, text = fraction ++ (exponent ++ rest) ∧ Fraction fraction ∧
      Exponent exponent := by
  unfold skipFraction? at h
  split at h
  · split at h
    · split at h
      · next c tail hc =>
        rw [List.dropWhile_cons_of_pos hc] at h
        obtain ⟨exponent, hrest, hexponent⟩ := exponent_of_skipExponent? h
        obtain ⟨digits, htail, hdigits, -⟩ := exists_digits hc tail
        refine ⟨'.' :: digits, exponent, ?_, .inr ⟨digits, rfl, hdigits⟩, hexponent⟩
        rw [htail, hrest, List.cons_append]
      · cases h
    · cases h
  · obtain ⟨exponent, rfl, hexponent⟩ := exponent_of_skipExponent? h
    exact ⟨[], exponent, rfl, .inl rfl, hexponent⟩

theorem skipFraction?_append {fraction exponent rest : List Char} (h : Fraction fraction)
    (hexponent : Exponent exponent) (hrest : Stops rest) :
    skipFraction? (fraction ++ (exponent ++ rest)) = .ok rest := by
  have hend := skipExponent?_append hexponent hrest
  have hhead := hexponent.head_append hrest
  rcases h with rfl | ⟨digits, rfl, hdigits⟩
  · unfold skipFraction?
    rw [List.nil_append]
    split
    · next heq => exact absurd rfl (hhead '.' (by rw [heq]; rfl)).2
    · exact hend
  · have hdrop := dropWhile_digits hdigits fun c hc => (hhead c hc).1
    obtain ⟨c, tail, rfl, hc⟩ := hdigits.exists_cons
    rw [List.cons_append] at hdrop
    simp only [List.cons_append, skipFraction?, hc, ↓reduceIte, hdrop, hend]

/-! ## Numbers -/

/-- Nothing that follows the integer part begins with a digit. -/
theorem Fraction.noDigit_append {fraction exponent rest : List Char} (h : Fraction fraction)
    (hexponent : Exponent exponent) (hrest : Stops rest) :
    NoDigit (fraction ++ (exponent ++ rest)) := by
  rcases h with rfl | ⟨digits, rfl, -⟩
  · exact fun c hc => (hexponent.head_append hrest c hc).1
  · rintro c hc
    cases hc
    decide

/-- What is passed over as a number is one. -/
theorem unsigned_of_skipNumber {text rest : List Char} (h : skipNumber text = .ok rest) :
    ∃ number, text = number ++ rest ∧ Unsigned number := by
  unfold skipNumber at h
  split at h
  · split at h
    · split at h
      · cases h
      · obtain ⟨fraction, exponent, hrest, hfraction, hexponent⟩ := fraction_of_skipFraction? h
        refine ⟨'0' :: (fraction ++ exponent), ?_, ['0'], fraction, exponent, rfl, .inl rfl,
          hfraction, hexponent⟩
        rw [hrest, List.cons_append, List.append_assoc]
    · cases h
      exact ⟨['0'], rfl, ['0'], [], [], rfl, .inl rfl, .inl rfl, .inl rfl⟩
  · split at h
    · next c tail hzero hc =>
      obtain ⟨fraction, exponent, hrest, hfraction, hexponent⟩ := fraction_of_skipFraction? h
      obtain ⟨integer, htail, hdigits, hhead⟩ := exists_digits hc tail
      refine ⟨integer ++ (fraction ++ exponent), ?_, integer, fraction, exponent, rfl,
        .inr ⟨hdigits, ?_⟩, hfraction, hexponent⟩
      · rw [htail, hrest, List.append_assoc, List.append_assoc]
      · rw [hhead]
        exact fun h => hzero (Option.some.inj h)
    · cases h
  · cases h

/-- A number that stops is passed over. -/
theorem skipNumber_append {number rest : List Char} (h : Unsigned number) (hrest : Stops rest) :
    skipNumber (number ++ rest) = .ok rest := by
  obtain ⟨integer, fraction, exponent, rfl, hinteger, hfraction, hexponent⟩ := h
  have hend := skipFraction?_append hfraction hexponent hrest
  have hnodigit := hfraction.noDigit_append hexponent hrest
  rw [List.append_assoc, List.append_assoc]
  rcases hinteger with rfl | ⟨hdigits, hzero⟩
  · generalize fraction ++ (exponent ++ rest) = behind at hend hnodigit
    cases behind with
    | nil => exact hend
    | cons c behind =>
      simp only [List.cons_append, List.nil_append, skipNumber, hnodigit c rfl, hend,
        Bool.false_eq_true, ↓reduceIte]
  · have hdrop := dropWhile_digits hdigits hnodigit
    obtain ⟨c, tail, rfl, hc⟩ := hdigits.exists_cons
    rw [List.cons_append, List.dropWhile_cons_of_pos hc] at hdrop
    have hne : c ≠ '0' := fun h => hzero (h ▸ rfl)
    simp only [List.cons_append, skipNumber, hc, ↓reduceIte, hdrop, hend]

end HistoryExpansion.Json
