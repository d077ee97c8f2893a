import HistoryExpansion.Text.Blank
import Mathlib.Data.List.DropRight

/-!
# Trimming

Blanks around a text do not matter to `trimmed` (`trimmed_append`). A text that holds no blank is
its own trimmed form (`trimmed_of_unbroken`), and so is every trimmed text, alone
(`trimmed_trimmed`) or with more characters behind it (`trimmed_trimmed_append`).
-/

namespace HistoryExpansion.Text

variable {lead text trail : List Char}

theorem dropLeadingBlanks_append_of_blank (h : ∀ c ∈ lead, isBlank c = true) (text : List Char) :
    dropLeadingBlanks (lead ++ text) = dropLeadingBlanks text :=
  List.dropWhile_append_of_pos h

theorem dropTrailingBlanks_append_of_blank (h : ∀ c ∈ trail, isBlank c = true)
    (text : List Char) : dropTrailingBlanks (text ++ trail) = dropTrailingBlanks text := by
  have hreverse : ∀ c ∈ trail.reverse, isBlank c = true := fun c hc => h c (List.mem_reverse.1 hc)
  rw [dropTrailingBlanks, List.reverse_append, List.dropWhile_append_of_pos hreverse]
  rfl

/-- **Blanks around a text** are trimmed away with those that it starts and ends in. -/
theorem trimmed_append (hlead : ∀ c ∈ lead, isBlank c = true)
    (htrail : ∀ c ∈ trail, isBlank c = true) (text : List Char) :
    trimmed (lead ++ text ++ trail) = trimmed text := by
  rw [trimmed, List.append_assoc, dropLeadingBlanks_append_of_blank hlead, trimmed,
    dropLeadingBlanks, List.dropWhile_append]
  split
  · next hblank =>
    have hnone : text.dropWhile isBlank = [] := List.isEmpty_iff.1 hblank
    have htrailing : trail.dropWhile isBlank = [] := by
      rw [← List.append_nil trail, List.dropWhile_append_of_pos htrail, List.dropWhile_nil]
    rw [htrailing, dropLeadingBlanks, hnone]
  · exact dropTrailingBlanks_append_of_blank htrail _

/-- A text without blanks stays as it is. -/
theorem trimmed_of_unbroken (h : ∀ c ∈ text, isBlank c = false) : trimmed text = text := by
  have hkept : ∀ {other : List Char}, (∀ c ∈ other, isBlank c = false) →
      other.dropWhile isBlank = other := by
    intro other hother
    cases other with
    | nil => rfl
    | cons c other =>
      rw [List.dropWhile_cons, hother c List.mem_cons_self, if_neg Bool.false_ne_true]
  rw [trimmed, dropLeadingBlanks, hkept h, dropTrailingBlanks,
    hkept fun c hc => h c (List.mem_reverse.1 hc), List.reverse_reverse]

/-- A trimmed text starts with no blank. -/
theorem dropLeadingBlanks_trimmed (text : List Char) :
    dropLeadingBlanks (trimmed text) = trimmed text := by
  obtain ⟨trail, htrail⟩ : trimmed text <+: dropLeadingBlanks text :=
    List.rdropWhile_prefix isBlank _
  cases hkept : trimmed text with
  | nil => rfl
  | cons c kept =>
    have hc : isBlank c = false := by
      have hhead := List.head?_dropWhile_not isBlank text
      rw [← dropLeadingBlanks, ← htrail, hkept] at hhead
      exact hhead
    rw [dropLeadingBlanks, List.dropWhile_cons, hc, if_neg Bool.false_ne_true]

/-- What is left when the blanks around a text are gone has none around it. -/
theorem trimmed_trimmed (text : List Char) : trimmed (trimmed text) = trimmed text := by
  rw [trimmed, dropLeadingBlanks_trimmed]
  exact List.rdropWhile_idempotent isBlank (dropLeadingBlanks text)

/-- Nothing is left of a text exactly if it has nothing but blanks. -/
theorem trimmed_eq_nil_iff : trimmed text = [] ↔ ∀ c ∈ text, isBlank c = true := by
  have hdropped : trimmed text = [] ↔ ∀ c ∈ dropLeadingBlanks text, isBlank c = true :=
    List.rdropWhile_eq_nil_iff
  rw [hdropped]
  constructor
  · intro h c hc
    rw [← List.takeWhile_append_dropWhile (p := isBlank) (l := text), List.mem_append] at hc
    exact hc.elim List.mem_takeWhile_imp (h c)
  · exact fun h c hc => h c ((List.dropWhile_suffix isBlank).mem hc)

/-- Characters that are put behind a trimmed text are kept with it. -/
theorem trimmed_trimmed_append (h : ∀ c ∈ trail, isBlank c = false) (hne : trail ≠ [])
    (text : List Char) : trimmed (trimmed text ++ trail) = trimmed text ++ trail := by
  have hleading : dropLeadingBlanks (trimmed text ++ trail) = trimmed text ++ trail := by
    have hkept := dropLeadingBlanks_trimmed text
    have htrail : trail.dropWhile isBlank = trail := by
      obtain ⟨c, trail, rfl⟩ := List.exists_cons_of_ne_nil hne
      rw [List.dropWhile_cons, h c List.mem_cons_self, if_neg Bool.false_ne_true]
    rw [dropLeadingBlanks] at hkept ⊢
    rw [List.dropWhile_append, hkept, htrail]
    split
    · next hnil => rw [List.isEmpty_iff.1 hnil, List.nil_append]
    · rfl
  obtain ⟨front, c, rfl⟩ := (List.eq_nil_or_concat' trail).resolve_left hne
  have hc : isBlank c = false := h c (List.mem_append_right _ List.mem_cons_self)
  rw [trimmed, hleading, dropTrailingBlanks, ← List.append_assoc, List.reverse_append,
    List.reverse_singleton, List.singleton_append, List.dropWhile_cons, hc,
    if_neg Bool.false_ne_true, List.reverse_cons, List.reverse_reverse]

end HistoryExpansion.Text
