import HistoryExpansion.Proofs.Text.Utf8Append

/-!
# What is cut off before its end

A list is cut off if it is the beginning of another one and not all of it. Where two pieces stand
one behind the other, the cut is in the first or in the second (`cutOff_append_iff`), and so a cut
through the octets of a text is between two characters or inside one (`cutOff_encode`). In the first
case the octets are those of a text that is cut off itself. In the second they are the octets of no
text (`EndsInside.text?_eq_none`), since the first octets of a character are neither a character nor
anything that more octets could not complete (`front_of_cutOff`).
-/

namespace HistoryExpansion

/-- A list that ends before another one does and agrees with it up to there. -/
def CutOff {α : Type} (part whole : List α) : Prop :=
  part <+: whole ∧ part ≠ whole

section

variable {α : Type} {part left right : List α} {item : α}

theorem cutOff_append_iff :
    CutOff part (left ++ right) ↔
      CutOff part left ∨ ∃ tail, part = left ++ tail ∧ CutOff tail right := by
  constructor
  · rintro ⟨⟨more, hmore⟩, hne⟩
    rcases List.append_eq_append_iff.1 hmore with ⟨between, rfl, rfl⟩ | ⟨tail, rfl, rfl⟩
    · by_cases hbetween : between = []
      · subst hbetween
        refine .inr ⟨[], by rw [List.append_nil, List.append_nil], List.nil_prefix, ?_⟩
        rintro rfl
        exact hne (by rw [List.append_nil, List.append_nil])
      · exact .inl ⟨List.prefix_append _ _, fun h => hbetween (List.self_eq_append_right.1 h)⟩
    · exact .inr ⟨tail, rfl, List.prefix_append _ _, fun h => hne (by rw [← h])⟩
  · rintro (⟨⟨more, rfl⟩, hne⟩ | ⟨tail, rfl, ⟨more, rfl⟩, hne⟩)
    · rw [List.append_assoc]
      refine ⟨List.prefix_append _ _, fun h => hne ?_⟩
      rw [(List.append_eq_nil_iff.1 (List.self_eq_append_right.1 h)).1, List.append_nil]
    · exact ⟨(List.prefix_append_right_inj left).2 (List.prefix_append _ _),
        fun h => hne (List.append_cancel_left h)⟩

theorem not_cutOff_nil : ¬CutOff part [] := fun h =>
  h.2 (List.prefix_nil.1 h.1)

theorem cutOff_cons_iff :
    CutOff part (item :: right) ↔ part = [] ∨ ∃ tail, part = item :: tail ∧ CutOff tail right := by
  constructor
  · rintro ⟨hfront, hne⟩
    refine (List.prefix_cons_iff.1 hfront).imp_right ?_
    rintro ⟨tail, rfl, htail⟩
    exact ⟨tail, rfl, htail, fun h => hne (by rw [h])⟩
  · rintro (rfl | ⟨tail, rfl, htail, hne⟩)
    · exact ⟨List.nil_prefix, (List.cons_ne_nil _ _).symm⟩
    · exact ⟨List.cons_prefix_cons.2 ⟨rfl, htail⟩, fun h => hne (List.cons.inj h).2⟩

theorem cutOff_singleton_iff : CutOff part [item] ↔ part = [] := by
  rw [cutOff_cons_iff]
  exact or_iff_left fun ⟨_, _, h⟩ => not_cutOff_nil h

end

namespace Utf8

/-! ## What is read for certain -/

/-- A front with more octets behind it, if they have no part in it. -/
def Front.append : Front → Octets → Front
  | done, _ => done
  | char c rest, more => char c (rest ++ more)
  | invalid length rest, more => invalid length (rest ++ more)
  | incomplete, _ => incomplete

section

variable {a : UInt8} {octets : Octets}

theorem front2_append_of_complete (h : front2 a octets ≠ .incomplete) (more : Octets) :
    front2 a (octets ++ more) = (front2 a octets).append more := by
  cases octets with
  | nil => exact absurd rfl h
  | cons b octets =>
    rw [List.cons_append, front2, front2]
    split <;> rfl

theorem front3_append_of_complete (h : front3 a octets ≠ .incomplete) (more : Octets) :
    front3 a (octets ++ more) = (front3 a octets).append more := by
  rcases octets with _ | ⟨b, _ | ⟨c, octets⟩⟩
  · exact absurd rfl h
  · have hsecond : ¬isSecondOfThree a b = true := by
      intro hsecond
      rw [front3, if_pos hsecond] at h
      exact h rfl
    cases more <;> simp [front3, hsecond, Front.append]
  · simp only [List.cons_append, front3]
    split
    · split <;> rfl
    · rfl

theorem front4_append_of_complete (h : front4 a octets ≠ .incomplete) (more : Octets) :
    front4 a (octets ++ more) = (front4 a octets).append more := by
  rcases octets with _ | ⟨b, _ | ⟨c, _ | ⟨d, octets⟩⟩⟩
  · exact absurd rfl h
  · have hsecond : ¬isSecondOfFour a b = true := by
      intro hsecond
      rw [front4, if_pos hsecond] at h
      exact h rfl
    rcases more with _ | ⟨c, _ | ⟨d, more⟩⟩ <;> simp [front4, hsecond, Front.append]
  · simp only [List.cons_append, List.nil_append, front4] at h ⊢
    split at h
    · split at h
      · exact absurd rfl h
      · next hsecond hthird => cases more <;> simp [hsecond, hthird, Front.append]
    · next hsecond => cases more <;> simp [hsecond, Front.append]
  · simp only [List.cons_append, front4]
    split
    · split
      · split <;> rfl
      · rfl
    · rfl

/-- Whatever is not cut short is read as it is, whatever stands behind it. -/
theorem front_append_of_complete (hne : octets ≠ []) (h : front octets ≠ .incomplete)
    (more : Octets) : front (octets ++ more) = (front octets).append more := by
  obtain ⟨a, octets, rfl⟩ := List.exists_cons_of_ne_nil hne
  simp only [List.cons_append, front] at h ⊢
  split
  · rfl
  next hone =>
  rw [if_neg hone] at h
  split
  · next htwo =>
    rw [if_pos htwo] at h
    exact front2_append_of_complete h more
  next htwo =>
  rw [if_neg htwo] at h
  split
  · next hthree =>
    rw [if_pos hthree] at h
    exact front3_append_of_complete h more
  next hthree =>
  rw [if_neg hthree] at h
  split
  · next hfour =>
    rw [if_pos hfour] at h
    exact front4_append_of_complete h more
  · rfl

end

/-- The first octets of a character are cut short by the end. -/
theorem front_of_cutOff {part : Octets} {c : Char} (h : CutOff part (encodeChar c))
    (hnil : part ≠ []) : front part = .incomplete := by
  obtain ⟨⟨more, hmore⟩, hne⟩ := h
  refine Decidable.byContradiction fun hcomplete => ?_
  have hfront := front_append_of_complete hnil hcomplete more
  rw [hmore, ← List.append_nil (encodeChar c), front_encodeChar] at hfront
  cases hpart : front part with
  | done => exact front_ne_done hnil hpart
  | invalid length rest =>
    rw [hpart] at hfront
    cases hfront
  | incomplete => exact hcomplete hpart
  | char d rest =>
    rw [hpart] at hfront
    obtain ⟨-, hrest⟩ := Front.char.inj hfront
    rw [(List.append_eq_nil_iff.1 hrest.symm).2, List.append_nil] at hmore
    exact hne hmore

/-! ## Texts that are cut off -/

/-- Octets that end inside of a character of a text. -/
def EndsInside (octets : Octets) (text : List Char) : Prop :=
  ∃ front c behind part, text = front ++ c :: behind ∧ octets = encode front ++ part ∧
    part ≠ [] ∧ CutOff part (encodeChar c)

/-- They are not UTF-8. -/
theorem EndsInside.text?_eq_none {octets : Octets} {text : List Char}
    (h : EndsInside octets text) : text? octets = none := by
  obtain ⟨front, c, behind, part, -, rfl, hnil, hpart⟩ := h
  rw [text?_encode_append, text?_of_ne_nil hnil, front_of_cutOff hpart hnil]
  rfl

/-- **A cut through the octets of a text** is between two of its characters or inside one. -/
theorem cutOff_encode {octets : Octets} {text : List Char} (h : CutOff octets (encode text)) :
    (∃ part, CutOff part text ∧ octets = encode part) ∨ EndsInside octets text := by
  induction text generalizing octets with
  | nil => exact absurd h not_cutOff_nil
  | cons c text ih =>
    have hsplit : encode (c :: text) = encodeChar c ++ encode text := List.flatMap_cons
    rw [hsplit] at h
    rcases cutOff_append_iff.1 h with hfirst | ⟨tail, rfl, htail⟩
    · by_cases hnil : octets = []
      · exact .inl ⟨[], ⟨List.nil_prefix, (List.cons_ne_nil _ _).symm⟩, hnil⟩
      · exact .inr ⟨[], c, text, octets, rfl, rfl, hnil, hfirst⟩
    · rcases ih htail with ⟨part, hpart, rfl⟩ | ⟨front, d, behind, part, rfl, rfl, hnil, hpart⟩
      · exact .inl ⟨c :: part, cutOff_cons_iff.2 (.inr ⟨part, rfl, hpart⟩), List.flatMap_cons.symm⟩
      · refine .inr ⟨c :: front, d, behind, part, rfl, ?_, hnil, hpart⟩
        rw [← List.append_assoc]
        exact congrArg (· ++ part) List.flatMap_cons.symm

end Utf8

end HistoryExpansion
