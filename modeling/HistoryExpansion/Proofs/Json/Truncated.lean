import HistoryExpansion.Proofs.Json.Reader
import HistoryExpansion.Proofs.Text.Truncated

/-!
# Strings and lists that are cut off

A reader that is given a written value without its end says that the text has ended, wherever the
cut is: `Unfinished item written`. This holds of literals, whose escapes may be cut as well
(`unfinished_quote`), and of items set apart by a comma and spaces, if it holds of each of them
(`readItemsWithin_cutOff`). The cut is taken back piece by piece, from the whole of what is written
to the piece that it goes through; the pieces before it are read as they stand.
-/

namespace HistoryExpansion.Json

/-- A reader finds no end in any part of a written text. -/
def Unfinished {α : Type} (item : Reader α) (written : List Char) : Prop :=
  ∀ part, CutOff part written → item part = .error .ended

/-! ## Literals -/

theorem utf8Size_hexDigit : ∀ value < 16, (hexDigit value).utf8Size = 1 := by
  decide

/-- An escape with less than four digits has ended, since no octets are left for the others. -/
theorem readQuoted_cutOff_unit {high low : Char} (hhigh : high.utf8Size = 1) {part : List Char}
    (h : CutOff part ['\\', 'u', '0', '0', high, low]) : readQuoted part = .error .ended := by
  rcases cutOff_cons_iff.1 h with rfl | ⟨part, rfl, hslash⟩
  · rfl
  rcases cutOff_cons_iff.1 hslash with rfl | ⟨part, rfl, hmark⟩
  · rfl
  rcases cutOff_cons_iff.1 hmark with rfl | ⟨part, rfl, hfirst⟩
  · rfl
  rcases cutOff_cons_iff.1 hfirst with rfl | ⟨part, rfl, hsecond⟩
  · rfl
  rcases cutOff_cons_iff.1 hsecond with rfl | ⟨part, rfl, hthird⟩
  · rfl
  · rw [cutOff_singleton_iff.1 hthird]
    show Except.error (shortUnit ['0', '0', high]) = _
    simp only [shortUnit, sumOf, List.map_cons, List.map_nil, List.foldr_cons, List.foldr_nil,
      hhigh]
    rfl

/-- An escape that is cut off has ended. -/
theorem readQuoted_cutOff_escape {c : Char} {part : List Char} (h : CutOff part (escape c)) :
    readQuoted part = .error .ended := by
  have hletter (letter : Char) (h : CutOff part ['\\', letter]) :
      readQuoted part = .error .ended := by
    rcases cutOff_cons_iff.1 h with rfl | ⟨tail, rfl, htail⟩
    · rfl
    · rw [cutOff_singleton_iff.1 htail]
      rfl
  unfold escape at h
  split at h
  · exact hletter _ h
  split at h
  · exact hletter _ h
  split at h
  · exact hletter _ h
  split at h
  · exact hletter _ h
  split at h
  · exact hletter _ h
  split at h
  · exact hletter _ h
  split at h
  · exact hletter _ h
  split at h
  · next hcontrol => exact readQuoted_cutOff_unit (utf8Size_hexDigit _ (by omega)) h
  · rw [cutOff_singleton_iff.1 h]
    rfl

/-- A literal that is cut off behind its opening quote has ended. -/
theorem readQuoted_cutOff {text part : List Char}
    (h : CutOff part (text.flatMap escape ++ ['"'])) : readQuoted part = .error .ended := by
  induction text generalizing part with
  | nil =>
    rw [cutOff_singleton_iff.1 h]
    rfl
  | cons c text ih =>
    rw [List.flatMap_cons, List.append_assoc] at h
    rcases cutOff_append_iff.1 h with hescape | ⟨tail, rfl, htail⟩
    · exact readQuoted_cutOff_escape hescape
    · rw [readQuoted_escape, ih htail]
      rfl

/-- **A literal that is cut off** has ended. -/
theorem unfinished_quote (text : String) : Unfinished readString (quote text.toList) := by
  intro part h
  rcases cutOff_cons_iff.1 h with rfl | ⟨tail, rfl, htail⟩
  · rfl
  · unfold readString
    rw [skipSpace_cons (by decide)]
    simp only [readQuoted_cutOff htail, Except.map]

/-! ## Items of a list -/

/-- Nothing is left behind spaces that are cut off before what follows them. -/
theorem skipSpace_cutOff {space part : List Char} {c : Char}
    (hspace : ∀ c ∈ space, isSpace c = true) (h : CutOff part (space ++ [c])) :
    skipSpace part = [] := by
  have hspaces : part <+: space := by
    rcases cutOff_append_iff.1 h with h | ⟨tail, rfl, htail⟩
    · exact h.1
    · simp only [cutOff_singleton_iff.1 htail, List.append_nil, List.prefix_rfl]
  have hpart : ∀ c ∈ part, isSpace c = true := fun c hc => hspace c (hspaces.subset hc)
  have hskip := skipSpace_append hpart []
  rw [List.append_nil] at hskip
  exact hskip

/-- What follows spaces is cut off too, unless nothing of it is left. -/
theorem skipSpace_cutOff_append {space written part : List Char} {c : Char}
    (hspace : ∀ c ∈ space, isSpace c = true) (hc : isSpace c = false)
    (h : CutOff part (space ++ c :: written)) :
    skipSpace part = [] ∨
      ∃ tail, skipSpace part = c :: tail ∧ CutOff (c :: tail) (c :: written) := by
  rcases cutOff_append_iff.1 h with hcut | ⟨tail, rfl, htail⟩
  · exact .inl (skipSpace_cutOff (c := c) hspace (cutOff_append_iff.2 (.inl hcut)))
  · rw [skipSpace_append hspace]
    rcases cutOff_cons_iff.1 htail with rfl | ⟨tail, rfl, -⟩
    · exact .inl rfl
    · exact .inr ⟨tail, skipSpace_cons hc tail, htail⟩

section Items

variable {α : Type} {item : Reader α} {write : α → List Char} {space close : List Char}
  (hspace : ∀ c ∈ space, isSpace c = true) (hclose : ∀ c ∈ close, isSpace c = true)

include hspace hclose in
/-- **Items of a list that is cut off** before its closing bracket have ended, whatever the fuel. -/
theorem readItemsWithin_cutOff {first : α} {values : List α} (fuel : Nat)
    (hreads : ∀ value ∈ first :: values, Reads item (write value) value)
    (hcut : ∀ value ∈ first :: values, Unfinished item (write value)) {part : List Char}
    (h : CutOff part
      ((',' :: space).intercalate ((first :: values).map write) ++ (close ++ [']']))) :
    readItemsWithin item fuel part = .error .ended := by
  induction values generalizing first fuel part with
  | nil =>
    rw [List.map_cons, List.map_nil, List.intercalate_singleton] at h
    cases fuel with
    | zero => rfl
    | succ fuel =>
      rcases cutOff_append_iff.1 h with hfirst | ⟨tail, rfl, htail⟩
      · rw [readItemsWithin, hcut first List.mem_cons_self part hfirst]
      · simp only [readItemsWithin, (hreads first List.mem_cons_self).read,
          skipSpace_cutOff hclose htail]
  | cons second values ih =>
    cases fuel with
    | zero => rfl
    | succ fuel =>
      rw [List.map_cons, List.map_cons, List.intercalate_cons_cons, List.append_assoc,
        List.append_assoc] at h
      rcases cutOff_append_iff.1 h with hfirst | ⟨tail, rfl, htail⟩
      · rw [readItemsWithin, hcut first List.mem_cons_self part hfirst]
      · have hothers : ∀ value ∈ second :: values, value ∈ first :: second :: values :=
          fun value hvalue => List.mem_cons_of_mem _ hvalue
        have hrest (part : List Char) (hpart : CutOff part
            ((',' :: space).intercalate ((second :: values).map write) ++ (close ++ [']']))) :=
          ih fuel (fun value hvalue => hreads value (hothers value hvalue))
            (fun value hvalue => hcut value (hothers value hvalue)) hpart
        rw [List.map_cons] at hrest
        obtain ⟨c, written, hstarts, hc, hne⟩ :=
          ((hreads second (hothers second List.mem_cons_self)).starts.intercalate
            (',' :: space) (values.map write)).append (close ++ [']'])
        rw [hstarts] at htail hrest
        simp only [readItemsWithin, (hreads first List.mem_cons_self).read]
        rw [List.cons_append] at htail
        rcases cutOff_cons_iff.1 htail with rfl | ⟨behind, rfl, hbehind⟩
        · rfl
        · simp only [skipSpace_cons (show isSpace ',' = false by decide)]
          rcases skipSpace_cutOff_append hspace hc hbehind with hnil | ⟨next, hnext, hcutoff⟩
          · rw [hnil]
          · rw [hnext]
            split
            · next heq => exact absurd heq (List.cons_ne_nil _ _)
            · next heq => exact absurd (List.cons.inj heq).1 hne
            · rw [hrest _ hcutoff]

end Items

end HistoryExpansion.Json
