import HistoryExpansion.Text.Utf8

/-!
# UTF-8 reads back what it writes

The octets of a character are read as that character whatever stands behind them
(`front_encodeChar`). A text has no more characters than octets, so the fuel of `decode` reaches to
the end of every text that was encoded: `decode_encode`.
-/

namespace HistoryExpansion.Utf8

/-! ## Single octets -/

theorem toNat_octet {n : Nat} (h : n < 0x100) : n.toUInt8.toNat = n :=
  Nat.mod_eq_of_lt h

theorem isTail_octet {n : Nat} (h : n < 0x40) : isTail (0x80 + n).toUInt8 = true := by
  have hn : 0x80 + n < 0x100 := by omega
  simp only [isTail, Bool.and_eq_true, decide_eq_true_eq, UInt8.le_iff_toNat_le, toNat_octet hn,
    UInt8.reduceToNat]
  omega

/-- Behind a first octet of three, the second octet of a character above the two-octet range and
outside the surrogates. -/
theorem isSecondOfThree_octet {h m : Nat} (hh : h < 0x10) (hm : m < 0x40)
    (hlow : h = 0 → 0x20 ≤ m) (hsur : h = 0xD → m < 0x20) :
    isSecondOfThree (0xE0 + h).toUInt8 (0x80 + m).toUInt8 = true := by
  have h1 : 0xE0 + h < 0x100 := by omega
  have h2 : 0x80 + m < 0x100 := by omega
  unfold isSecondOfThree
  simp only [← UInt8.toNat_inj, UInt8.le_iff_toNat_le, toNat_octet h1, toNat_octet h2,
    UInt8.reduceToNat, isTail_octet hm]
  split
  · simp only [decide_eq_true_eq, Bool.and_eq_true]; omega
  · split
    · simp only [decide_eq_true_eq, Bool.and_eq_true]; omega
    · rfl

/-- Behind a first octet of four, the second octet of a character above the three-octet range and
below the end of the code points. -/
theorem isSecondOfFour_octet {h m : Nat} (hh : h < 5) (hm : m < 0x40)
    (hlow : h = 0 → 0x10 ≤ m) (hend : h = 4 → m < 0x10) :
    isSecondOfFour (0xF0 + h).toUInt8 (0x80 + m).toUInt8 = true := by
  have h1 : 0xF0 + h < 0x100 := by omega
  have h2 : 0x80 + m < 0x100 := by omega
  unfold isSecondOfFour
  simp only [← UInt8.toNat_inj, UInt8.le_iff_toNat_le, toNat_octet h1, toNat_octet h2,
    UInt8.reduceToNat, isTail_octet hm]
  split
  · simp only [decide_eq_true_eq, Bool.and_eq_true]; omega
  · split
    · simp only [decide_eq_true_eq, Bool.and_eq_true]; omega
    · rfl

/-! ## Single characters -/

theorem front_one {n : Nat} (h : n < 0x80) (rest : Octets) :
    front (n.toUInt8 :: rest) = .char (Char.ofNat n) rest := by
  have hn : n < 0x100 := by omega
  simp only [front, UInt8.lt_iff_toNat_lt, toNat_octet hn, UInt8.reduceToNat]
  rw [if_pos h]

theorem front_two {h t : Nat} (hh : 2 ≤ h ∧ h < 0x20) (ht : t < 0x40) (rest : Octets) :
    front ((0xC0 + h).toUInt8 :: (0x80 + t).toUInt8 :: rest) =
      .char (Char.ofNat (h * 0x40 + t)) rest := by
  have h1 : 0xC0 + h < 0x100 := by omega
  have h2 : 0x80 + t < 0x100 := by omega
  simp only [front, front2, UInt8.lt_iff_toNat_lt, UInt8.le_iff_toNat_le, toNat_octet h1,
    UInt8.reduceToNat, isTail_octet ht, ↓reduceIte, char2, toNat_octet h2,
    Nat.add_sub_cancel_left]
  rw [if_neg (by omega), if_pos (by omega)]

theorem front_three {h m t : Nat} (hh : h < 0x10) (hm : m < 0x40) (ht : t < 0x40)
    (hlow : h = 0 → 0x20 ≤ m) (hsur : h = 0xD → m < 0x20) (rest : Octets) :
    front ((0xE0 + h).toUInt8 :: (0x80 + m).toUInt8 :: (0x80 + t).toUInt8 :: rest) =
      .char (Char.ofNat (h * 0x1000 + m * 0x40 + t)) rest := by
  have h1 : 0xE0 + h < 0x100 := by omega
  have h2 : 0x80 + m < 0x100 := by omega
  have h3 : 0x80 + t < 0x100 := by omega
  simp only [front, front3, UInt8.lt_iff_toNat_lt, UInt8.le_iff_toNat_le, toNat_octet h1,
    UInt8.reduceToNat, isSecondOfThree_octet hh hm hlow hsur, isTail_octet ht, ↓reduceIte, char3,
    toNat_octet h2, toNat_octet h3, Nat.add_sub_cancel_left]
  rw [if_neg (by omega), if_neg (by omega), if_pos (by omega)]

theorem front_four {h m l t : Nat} (hh : h < 5) (hm : m < 0x40) (hl : l < 0x40) (ht : t < 0x40)
    (hlow : h = 0 → 0x10 ≤ m) (hend : h = 4 → m < 0x10) (rest : Octets) :
    front ((0xF0 + h).toUInt8 :: (0x80 + m).toUInt8 :: (0x80 + l).toUInt8 ::
        (0x80 + t).toUInt8 :: rest) =
      .char (Char.ofNat (h * 0x40000 + m * 0x1000 + l * 0x40 + t)) rest := by
  have h1 : 0xF0 + h < 0x100 := by omega
  have h2 : 0x80 + m < 0x100 := by omega
  have h3 : 0x80 + l < 0x100 := by omega
  have h4 : 0x80 + t < 0x100 := by omega
  simp only [front, front4, UInt8.lt_iff_toNat_lt, UInt8.le_iff_toNat_le, toNat_octet h1,
    UInt8.reduceToNat, isSecondOfFour_octet hh hm hlow hend, isTail_octet hl, isTail_octet ht,
    ↓reduceIte, char4, toNat_octet h2, toNat_octet h3, toNat_octet h4, Nat.add_sub_cancel_left]
  rw [if_neg (by omega), if_neg (by omega), if_neg (by omega), if_pos (by omega)]

/-- The octets of a character are read as that character. -/
theorem front_encodeChar (c : Char) (rest : Octets) :
    front (encodeChar c ++ rest) = .char c rest := by
  have hvalid : c.toNat < 0xD800 ∨ (0xDFFF < c.toNat ∧ c.toNat < 0x110000) := c.valid
  have hback : Char.ofNat c.toNat = c := Char.ofNat_toNat c
  unfold encodeChar
  generalize c.toNat = n at hvalid hback
  simp only
  split
  · next h1 =>
    rw [List.cons_append, List.nil_append, front_one h1, hback]
  · next h1 =>
    split
    · next h2 =>
      rw [List.cons_append, List.cons_append, List.nil_append, front_two (by omega) (by omega),
        Nat.div_add_mod', hback]
    · next h2 =>
      split
      · next h3 =>
        rw [List.cons_append, List.cons_append, List.cons_append, List.nil_append,
          front_three (by omega) (by omega) (by omega) (by omega) (by omega),
          show n / 0x1000 * 0x1000 + n / 0x40 % 0x40 * 0x40 + n % 0x40 = n by omega, hback]
      · next h3 =>
        rw [List.cons_append, List.cons_append, List.cons_append, List.cons_append,
          List.nil_append,
          front_four (by omega) (by omega) (by omega) (by omega) (by omega) (by omega),
          show n / 0x40000 * 0x40000 + n / 0x1000 % 0x40 * 0x1000 + n / 0x40 % 0x40 * 0x40 +
            n % 0x40 = n by omega, hback]

/-! ## Texts -/

theorem length_encodeChar_pos (c : Char) : 0 < (encodeChar c).length := by
  unfold encodeChar
  simp only
  split
  · simp
  · split
    · simp
    · split <;> simp

theorem decodeWithin_encode {text : List Char} {fuel : Nat} (h : (encode text).length < fuel)
    (offset : Nat) : decodeWithin fuel offset (encode text) = .ok text := by
  induction text generalizing fuel offset with
  | nil =>
    obtain ⟨fuel, rfl⟩ := Nat.exists_eq_add_one.2 (Nat.zero_lt_of_lt h)
    rfl
  | cons c text ih =>
    obtain ⟨fuel, rfl⟩ := Nat.exists_eq_add_one.2 (Nat.zero_lt_of_lt h)
    have hlen : (encode (c :: text)).length = (encodeChar c).length + (encode text).length := by
      simp only [encode, List.flatMap_cons, List.length_append]
    have hpos := length_encodeChar_pos c
    have hfront : front (encode (c :: text)) = .char c (encode text) := by
      simp only [encode, List.flatMap_cons, front_encodeChar]
    simp only [decodeWithin, hfront, ih (show (encode text).length < fuel by omega), Except.map]

/-- **Decoding undoes encoding** for every text. -/
theorem decode_encode (text : List Char) : decode (encode text) = .ok text :=
  decodeWithin_encode (Nat.lt_succ_self _) 0

end HistoryExpansion.Utf8
