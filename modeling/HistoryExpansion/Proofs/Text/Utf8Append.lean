import HistoryExpansion.Proofs.Text.Utf8

/-!
# UTF-8 is read character by character

`text?` is what octets say as a text, without a word about where they fail. It takes one character
at a time (`text?_of_ne_nil`), so octets that stand before or behind an encoded text are read as
they are read alone: `text?_encode_append` and `text?_append_encode`. For the second one the text
must not complete a character that is cut short before it, and it cannot: an encoded text never
starts with an octet that stands behind the first one of a character (`starts_encode`).
-/

namespace HistoryExpansion.Utf8

/-- The character at the front, if there is one, with the octets behind it. -/
def Front.char? : Front → Option (Char × Octets)
  | char c rest => some (c, rest)
  | done | invalid _ _ | incomplete => none

/-- The text that octets encode, if they are UTF-8. -/
def text? (octets : Octets) : Option (List Char) :=
  (decode octets).toOption

/-! ## What stands behind a character -/

/-- Octets do not start in the middle of a character. -/
def Starts : Octets → Prop
  | [] => True
  | octet :: _ => isTail octet = false

theorem isTail_of_isSecondOfThree {first second : UInt8}
    (h : isSecondOfThree first second = true) : isTail second = true := by
  unfold isSecondOfThree at h
  simp only [isTail, UInt8.le_iff_toNat_le, UInt8.reduceToNat] at h ⊢
  split at h
  · simp only [Bool.and_eq_true, decide_eq_true_eq] at h ⊢
    omega
  · split at h
    · simp only [Bool.and_eq_true, decide_eq_true_eq] at h ⊢
      omega
    · exact h

theorem isTail_of_isSecondOfFour {first second : UInt8}
    (h : isSecondOfFour first second = true) : isTail second = true := by
  unfold isSecondOfFour at h
  simp only [isTail, UInt8.le_iff_toNat_le, UInt8.reduceToNat] at h ⊢
  split at h
  · simp only [Bool.and_eq_true, decide_eq_true_eq] at h ⊢
    omega
  · split at h
    · simp only [Bool.and_eq_true, decide_eq_true_eq] at h ⊢
      omega
    · exact h

section

variable {o : UInt8} (ho : isTail o = false) (behind : Octets) (a : UInt8)

include ho

theorem front2_append (octets : Octets) :
    (front2 a (octets ++ o :: behind)).char? =
      (front2 a octets).char?.map fun found => (found.1, found.2 ++ o :: behind) := by
  cases octets with
  | nil =>
    simp only [List.nil_append, front2, ho, Bool.false_eq_true, ↓reduceIte, Front.char?,
      Option.map_none]
  | cons b octets =>
    rw [List.cons_append, front2, front2]
    split <;> simp only [Front.char?, Option.map_some, Option.map_none]

theorem front3_append (octets : Octets) :
    (front3 a (octets ++ o :: behind)).char? =
      (front3 a octets).char?.map fun found => (found.1, found.2 ++ o :: behind) := by
  rcases octets with _ | ⟨b, _ | ⟨c, octets⟩⟩
  · have hsecond : isSecondOfThree a o = false :=
      Bool.eq_false_iff.2 fun h => Bool.noConfusion (ho.symm.trans (isTail_of_isSecondOfThree h))
    cases behind <;>
      simp only [List.nil_append, front3, hsecond, Bool.false_eq_true, ↓reduceIte, Front.char?,
        Option.map_none]
  · simp only [List.cons_append, List.nil_append, front3, ho, Bool.false_eq_true, ↓reduceIte]
    split <;> simp only [Front.char?, Option.map_none]
  · simp only [List.cons_append, front3]
    split
    · split <;> simp only [Front.char?, Option.map_some, Option.map_none]
    · simp only [Front.char?, Option.map_none]

theorem front4_append (octets : Octets) :
    (front4 a (octets ++ o :: behind)).char? =
      (front4 a octets).char?.map fun found => (found.1, found.2 ++ o :: behind) := by
  rcases octets with _ | ⟨b, _ | ⟨c, _ | ⟨d, octets⟩⟩⟩
  · have hsecond : isSecondOfFour a o = false :=
      Bool.eq_false_iff.2 fun h => Bool.noConfusion (ho.symm.trans (isTail_of_isSecondOfFour h))
    rcases behind with _ | ⟨c, _ | ⟨d, behind⟩⟩ <;>
      simp only [List.nil_append, front4, hsecond, Bool.false_eq_true, ↓reduceIte, Front.char?,
        Option.map_none]
  · cases behind <;>
      simp only [List.cons_append, List.nil_append, front4, ho, Bool.false_eq_true, ↓reduceIte]
    · split <;> simp only [Front.char?, Option.map_none]
    · split <;> simp only [Front.char?, Option.map_none]
  · simp only [List.cons_append, List.nil_append, front4, ho, Bool.false_eq_true, ↓reduceIte]
    split
    · split <;> simp only [Front.char?, Option.map_none]
    · simp only [Front.char?, Option.map_none]
  · simp only [List.cons_append, front4]
    split
    · split
      · split <;> simp only [Front.char?, Option.map_some, Option.map_none]
      · simp only [Front.char?, Option.map_none]
    · simp only [Front.char?, Option.map_none]

end

/-- A character is read as it is read alone, and none comes about by what stands behind. -/
theorem front_append {behind : Octets} (hbehind : Starts behind) {octets : Octets}
    (h : octets ≠ []) :
    (front (octets ++ behind)).char? =
      (front octets).char?.map fun found => (found.1, found.2 ++ behind) := by
  obtain ⟨a, octets, rfl⟩ := List.exists_cons_of_ne_nil h
  cases behind with
  | nil =>
    rw [List.append_nil]
    cases (front (a :: octets)).char? <;>
      simp only [List.append_nil, Option.map_none, Option.map_some]
  | cons o behind =>
    rw [List.cons_append, front, front]
    split
    · rfl
    · split
      · exact front2_append hbehind behind a octets
      · split
        · exact front3_append hbehind behind a octets
        · split
          · exact front4_append hbehind behind a octets
          · rfl

theorem isTail_first {n : Nat} (h : n < 0x80 ∨ 0xC0 ≤ n) (hn : n < 0x100) :
    isTail n.toUInt8 = false := by
  simp only [isTail, UInt8.le_iff_toNat_le, toNat_octet hn, UInt8.reduceToNat,
    Bool.and_eq_false_iff, decide_eq_false_iff_not]
  omega

/-- An encoded text does not start in the middle of a character. -/
theorem starts_encode (text : List Char) : Starts (encode text) := by
  cases text with
  | nil => trivial
  | cons c text =>
    have hvalid : c.toNat < 0xD800 ∨ (0xDFFF < c.toNat ∧ c.toNat < 0x110000) := c.valid
    rw [encode, List.flatMap_cons, encodeChar]
    generalize c.toNat = n at hvalid
    split
    · exact isTail_first (by omega) (by omega)
    · split
      · exact isTail_first (by omega) (by omega)
      · split <;> exact isTail_first (by omega) (by omega)

/-! ## One character at a time -/

theorem length_lt_of_front {octets rest : Octets} {c : Char}
    (h : (front octets).char? = some (c, rest)) : rest.length < octets.length := by
  rcases octets with _ | ⟨a, _ | ⟨b, _ | ⟨d, _ | ⟨e, octets⟩⟩⟩⟩ <;>
    grind [front, front2, front3, front4, Front.char?]

theorem front_ne_done {octets : Octets} (h : octets ≠ []) : front octets ≠ .done := by
  rcases octets with _ | ⟨a, _ | ⟨b, _ | ⟨d, _ | ⟨e, octets⟩⟩⟩⟩
  · exact absurd rfl h
  all_goals grind [front, front2, front3, front4]

theorem toOption_map_cons (c : Char) (read : Except Fault (List Char)) :
    (read.map (c :: ·)).toOption = read.toOption.map (c :: ·) := by
  cases read <;> rfl

/-- Neither the fuel nor the offset has a part in the text. -/
theorem toOption_decodeWithin {fuel other : Nat} {octets : Octets} (h : octets.length < fuel)
    (hother : octets.length < other) (offset shift : Nat) :
    (decodeWithin fuel offset octets).toOption = (decodeWithin other shift octets).toOption := by
  induction fuel generalizing other octets offset shift with
  | zero => exact absurd h (Nat.not_lt_zero _)
  | succ fuel ih =>
    obtain ⟨other, rfl⟩ := Nat.exists_eq_add_one.2 (Nat.zero_lt_of_lt hother)
    rw [decodeWithin, decodeWithin]
    cases hfront : front octets with
    | done => rfl
    | char c rest =>
      have hrest : rest.length < octets.length :=
        length_lt_of_front (by rw [hfront, Front.char?])
      have hsame := ih (show rest.length < fuel by omega) (show rest.length < other by omega)
        (offset + c.utf8Size) (shift + c.utf8Size)
      simp only [toOption_map_cons, hsame]
    | invalid length rest => rfl
    | incomplete => rfl

/-- **A text is read** one character after the other. -/
theorem text?_of_ne_nil {octets : Octets} (h : octets ≠ []) :
    text? octets =
      (front octets).char?.bind fun found => (text? found.2).map (found.1 :: ·) := by
  rw [text?, decode, decodeWithin]
  cases hfront : front octets with
  | done => exact absurd hfront (front_ne_done h)
  | char c rest =>
    have hrest : rest.length < octets.length := length_lt_of_front (by rw [hfront, Front.char?])
    have hsame := toOption_decodeWithin hrest (Nat.lt_succ_self rest.length) (0 + c.utf8Size) 0
    simp only [toOption_map_cons, hsame]
    rfl
  | invalid length rest => rfl
  | incomplete => rfl

/-! ## Texts before and behind -/

theorem text?_encode (text : List Char) : text? (encode text) = some text := by
  rw [text?, decode_encode]
  rfl

/-- Octets behind a text are read as they are read alone. -/
theorem text?_encode_append (text : List Char) (octets : Octets) :
    text? (encode text ++ octets) = (text? octets).map (text ++ ·) := by
  induction text with
  | nil => simp only [encode, List.flatMap_nil, List.nil_append, Option.map_id']
  | cons c text ih =>
    have hsplit : encode (c :: text) ++ octets = encodeChar c ++ (encode text ++ octets) := by
      rw [encode, List.flatMap_cons, List.append_assoc]
      rfl
    have hne : encodeChar c ++ (encode text ++ octets) ≠ [] :=
      List.append_ne_nil_of_left_ne_nil (List.ne_nil_of_length_pos (length_encodeChar_pos c)) _
    rw [hsplit, text?_of_ne_nil hne, front_encodeChar]
    simp only [Front.char?, Option.bind_some, ih, Option.map_map]
    rfl

/-- Octets before a text are read as they are read alone. -/
theorem text?_append_encode (octets : Octets) (text : List Char) :
    text? (octets ++ encode text) = (text? octets).map (· ++ text) := by
  induction hlength : octets.length using Nat.strongRecOn generalizing octets with
  | ind length ih =>
    by_cases hnil : octets = []
    · subst hnil
      exact text?_encode text
    · have hne : octets ++ encode text ≠ [] := List.append_ne_nil_of_left_ne_nil hnil _
      rw [text?_of_ne_nil hne, text?_of_ne_nil hnil, front_append (starts_encode text) hnil]
      cases hfront : (front octets).char? with
      | none => rfl
      | some found =>
        have hshorter : found.2.length < length := hlength ▸ length_lt_of_front hfront
        simp only [Option.map_some, Option.bind_some, ih _ hshorter _ rfl, Option.map_map]
        rfl

end HistoryExpansion.Utf8
