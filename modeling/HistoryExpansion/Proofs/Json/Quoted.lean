import HistoryExpansion.Json.Quoted

/-!
# Quoted strings are read back

Reading what `escape` writes for a character gives that character (`readQuoted_escape`), so a
literal is read as the string that it was written for, whatever stands behind it
(`readQuoted_flatMap_escape`).
-/

namespace HistoryExpansion.Json

theorem hexValue?_hexDigit : ∀ value < 16, hexValue? (hexDigit value) = some value := by
  decide

/-- The four digits of a control character's escape. -/
theorem hexUnit?_control {value : Nat} (h : value < 0x20) :
    hexUnit? '0' '0' (hexDigit (value / 16)) (hexDigit (value % 16)) = some value := by
  have hzero : hexValue? '0' = some 0 := by decide
  have hhigh := hexValue?_hexDigit (value / 16) (by omega)
  have hlow := hexValue?_hexDigit (value % 16) (Nat.mod_lt _ (by decide))
  simp only [hexUnit?, hzero, hhigh, hlow, Option.bind_eq_bind, Option.bind_some, pure,
    Nat.zero_mul, Nat.zero_add, Option.some.injEq]
  omega

/-- What is written for a character is read as that character. -/
theorem readQuoted_escape (c : Char) (rest : List Char) :
    readQuoted (escape c ++ rest) = consChar c (readQuoted rest) := by
  unfold escape
  split
  · next h => subst h; rfl
  split
  · next h => subst h; rfl
  split
  · next h => subst h; rfl
  split
  · next h => subst h; rfl
  split
  · next h => subst h; rfl
  split
  · next h => subst h; rfl
  split
  · next h => subst h; rfl
  split
  · next h =>
    have hhigh : isHighSurrogate c.toNat = false := by
      simp only [isHighSurrogate, Bool.and_eq_false_imp, decide_eq_true_eq]
      omega
    have hlow : isLowSurrogate c.toNat = false := by
      simp only [isLowSurrogate, Bool.and_eq_false_imp, decide_eq_true_eq]
      omega
    simp only [List.cons_append, List.nil_append, readQuoted, hexUnit?_control h, hhigh, hlow,
      Bool.false_eq_true, ↓reduceIte, Char.ofNat_toNat]
  · next hquote hslash _ _ _ _ _ hcontrol =>
    rw [List.cons_append, List.nil_append, readQuoted, if_neg hcontrol]
    -- The earlier patterns of the reader all begin with a quote or a backslash.
    · exact hquote
    · exact fun _ _ _ _ _ h _ => hslash h
    · exact fun _ h _ => hslash h
    · exact fun h _ => hslash h
    · exact fun _ _ h _ => hslash h

/-- What is written for a string is read as that string, up to behind the closing quote. -/
theorem readQuoted_flatMap_escape (text rest : List Char) :
    readQuoted (text.flatMap escape ++ '"' :: rest) = .ok (text, rest) := by
  induction text with
  | nil => rfl
  | cons c text ih =>
    rw [List.flatMap_cons, List.append_assoc, readQuoted_escape, ih]
    rfl

end HistoryExpansion.Json
