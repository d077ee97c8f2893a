import HistoryExpansion.Proofs.Text.Utf8

/-!
# UTF-8 keeps the order

Texts are ordered by their code points and octets by their values. A smaller character has smaller
octets, whatever stands behind the two (`encodeChar_append_lt`), so texts are in the same order as
the octets that encode them: `ofString_lt_iff`.
-/

namespace HistoryExpansion.Utf8

theorem toNat_lt_end (c : Char) : c.toNat < 0x110000 := by
  rcases c.valid with hc | hc
  · exact Nat.lt_trans hc (by decide)
  · exact hc.2

/-- Octets are compared one by one; those behind count only where the first are equal. -/
theorem octet_cons_lt {m n : Nat} {left right : Octets} (hle : m ≤ n) (hn : n < 0x100)
    (hbehind : m = n → left < right) : m.toUInt8 :: left < n.toUInt8 :: right := by
  rw [List.cons_lt_cons_iff]
  rcases Nat.eq_or_lt_of_le hle with rfl | hlt
  · exact .inr ⟨rfl, hbehind rfl⟩
  · refine .inl ?_
    rw [UInt8.lt_iff_toNat_lt, toNat_octet hn, toNat_octet (Nat.lt_trans hlt hn)]
    exact hlt

/-- **The octets of a smaller character** are smaller, whatever stands behind. -/
theorem encodeChar_append_lt {c d : Char} (h : c < d) (left right : Octets) :
    encodeChar c ++ left < encodeChar d ++ right := by
  have hlt : c.toNat < d.toNat := h
  have hd := toNat_lt_end d
  unfold encodeChar
  generalize c.toNat = m at hlt
  generalize d.toNat = n at hlt hd
  simp only
  -- The first octet tells the number of octets, and the rest are digits, the highest first.
  split
  · split
    · exact octet_cons_lt (by omega) (by omega) (by omega)
    · split
      · exact octet_cons_lt (by omega) (by omega) (by omega)
      · split <;> exact octet_cons_lt (by omega) (by omega) (by omega)
  rw [if_neg (show ¬n < 0x80 by omega)]
  split
  · split
    · exact octet_cons_lt (by omega) (by omega) fun _ =>
        octet_cons_lt (by omega) (by omega) (by omega)
    · split <;> exact octet_cons_lt (by omega) (by omega) (by omega)
  rw [if_neg (show ¬n < 0x800 by omega)]
  split
  · split
    · exact octet_cons_lt (by omega) (by omega) fun _ =>
        octet_cons_lt (by omega) (by omega) fun _ =>
          octet_cons_lt (by omega) (by omega) (by omega)
    · exact octet_cons_lt (by omega) (by omega) (by omega)
  rw [if_neg (show ¬n < 0x10000 by omega)]
  exact octet_cons_lt (by omega) (by omega) fun _ =>
    octet_cons_lt (by omega) (by omega) fun _ =>
      octet_cons_lt (by omega) (by omega) fun _ =>
        octet_cons_lt (by omega) (by omega) (by omega)

theorem append_lt_append {octets left right : Octets} (h : left < right) :
    octets ++ left < octets ++ right := by
  induction octets with
  | nil => exact h
  | cons octet octets ih => exact List.cons_lt_cons_iff.2 (.inr ⟨rfl, ih⟩)

theorem encode_lt {left right : List Char} (h : left < right) : encode left < encode right := by
  induction left generalizing right with
  | nil =>
    cases right with
    | nil => exact absurd h (List.lt_irrefl [])
    | cons d right =>
      have hlength := length_encodeChar_pos d
      rw [encode, encode, List.flatMap_nil, List.flatMap_cons]
      cases hoctets : encodeChar d with
      | nil =>
        rw [hoctets] at hlength
        exact absurd hlength (Nat.lt_irrefl 0)
      | cons octet octets => exact List.nil_lt_cons _ _
  | cons c left ih =>
    cases right with
    | nil => exact absurd h (List.not_lt_nil _)
    | cons d right =>
      rw [encode, encode, List.flatMap_cons, List.flatMap_cons]
      rcases List.cons_lt_cons_iff.1 h with hlt | ⟨rfl, hrest⟩
      · exact encodeChar_append_lt hlt _ _
      · exact append_lt_append (ih hrest)

/-- **Texts are in the order of their octets.** -/
theorem ofString_lt_iff {left right : String} : ofString left < ofString right ↔ left < right := by
  refine ⟨fun h => Decidable.byContradiction fun hnot => ?_, encode_lt⟩
  have hne : right ≠ left := by
    rintro rfl
    exact List.lt_irrefl _ h
  have hlt : right < left := Std.lt_of_le_of_ne (String.not_lt.1 hnot) hne
  exact List.lt_asymm h (encode_lt hlt)

end HistoryExpansion.Utf8
