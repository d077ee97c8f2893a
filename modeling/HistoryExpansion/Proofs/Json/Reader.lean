import HistoryExpansion.Json.Reader
import HistoryExpansion.Proofs.Json.Quoted

/-!
# Strings and lists are read back

`Reads item written value` says that a reader takes `written` for `value`, whatever stands behind
it. A literal reads as its string (`reads_quote`). Items that are set apart by a comma and spaces
read as the list of their values (`readItemsWithin_intercalate`), as long as the fuel outlasts
them.
-/

namespace HistoryExpansion.Json

/-! ## Spaces -/

theorem skipSpace_append {space : List Char} (h : ∀ c ∈ space, isSpace c = true)
    (text : List Char) : skipSpace (space ++ text) = skipSpace text :=
  List.dropWhile_append_of_pos h

theorem skipSpace_cons {c : Char} (h : isSpace c = false) (text : List Char) :
    skipSpace (c :: text) = c :: text :=
  List.dropWhile_cons_of_neg (by rw [h]; exact Bool.false_ne_true)

/-- Spaces in front of a string do not count. -/
theorem readString_append {space : List Char} (h : ∀ c ∈ space, isSpace c = true)
    (text : List Char) : readString (space ++ text) = readString text := by
  unfold readString
  rw [skipSpace_append h]

/-- Spaces in front of a list do not count. -/
theorem readList_append {α : Type} {item : Reader α} {space : List Char}
    (h : ∀ c ∈ space, isSpace c = true) (text : List Char) :
    readList item (space ++ text) = readList item text := by
  unfold readList
  rw [skipSpace_append h]

/-! ## Values that are read back -/

/-- A text that starts with neither a space nor a closing bracket, as the items of a list do. -/
def StartsItem (text : List Char) : Prop :=
  ∃ c tail, text = c :: tail ∧ isSpace c = false ∧ c ≠ ']'

namespace StartsItem

theorem append {text : List Char} (h : StartsItem text) (rest : List Char) :
    StartsItem (text ++ rest) := by
  obtain ⟨c, tail, rfl, hc, hne⟩ := h
  exact ⟨c, tail ++ rest, rfl, hc, hne⟩

/-- Items that are set apart by something begin with the first item. -/
theorem intercalate {first : List Char} (h : StartsItem first) (lead : List Char)
    (items : List (List Char)) : StartsItem (lead.intercalate (first :: items)) := by
  cases items with
  | nil =>
    rw [List.intercalate_singleton]
    exact h
  | cons next items =>
    rw [List.intercalate_cons_cons, List.append_assoc]
    exact h.append _

end StartsItem

/-- A reader takes a written text for a value, whatever stands behind the text, and the text can be
an item of a list. -/
structure Reads {α : Type} (item : Reader α) (written : List Char) (value : α) : Prop where
  read : ∀ rest, item (written ++ rest) = .ok (value, rest)
  starts : StartsItem written

theorem readString_quote (text : String) (rest : List Char) :
    readString (quote text.toList ++ rest) = .ok (text, rest) := by
  unfold readString quote
  rw [List.cons_append, skipSpace_cons (by decide), List.append_assoc]
  simp only [List.cons_append, List.nil_append, readQuoted_flatMap_escape, Except.map,
    String.ofList_toList]

/-- **A literal reads as its string.** -/
theorem reads_quote (text : String) : Reads readString (quote text.toList) text :=
  ⟨readString_quote text, '"', _, rfl, by decide, by decide⟩

/-! ## Items of a list -/

section Items

variable {α : Type} {item : Reader α} {write : α → List Char} {space close : List Char}
  (hspace : ∀ c ∈ space, isSpace c = true) (hclose : ∀ c ∈ close, isSpace c = true)

/-- Items that are set apart by something are no more than the characters that they take. -/
theorem length_le_length_intercalate {lead : List Char} (h : lead ≠ []) (first : List Char)
    (items : List (List Char)) : items.length ≤ (lead.intercalate (first :: items)).length := by
  induction items generalizing first with
  | nil => exact Nat.zero_le _
  | cons next items ih =>
    have hlead := List.length_pos_iff.2 h
    have hrest := ih next
    rw [List.intercalate_cons_cons, List.length_append, List.length_append, List.length_cons]
    omega

include hspace hclose in
/-- **Items set apart by a comma and spaces** are read one by one up to the closing bracket. -/
theorem readItemsWithin_intercalate {first : α} {values : List α} (fuel : Nat)
    (hreads : ∀ value ∈ first :: values, Reads item (write value) value)
    (hfuel : values.length < fuel) (rest : List Char) :
    readItemsWithin item fuel
        ((',' :: space).intercalate ((first :: values).map write) ++ (close ++ ']' :: rest)) =
      .ok (first :: values, rest) := by
  induction values generalizing first fuel with
  | nil =>
    obtain ⟨fuel, rfl⟩ := Nat.exists_eq_add_one.2 hfuel
    have hfirst := (hreads first List.mem_cons_self).read
    have hend : skipSpace (close ++ ']' :: rest) = ']' :: rest := by
      rw [skipSpace_append hclose, skipSpace_cons (by decide)]
    simp only [List.map_cons, List.map_nil, List.intercalate_singleton, readItemsWithin, hfirst,
      hend]
  | cons second values ih =>
    obtain ⟨fuel, rfl⟩ := Nat.exists_eq_add_one.2 (Nat.zero_lt_of_lt hfuel)
    have hfirst := (hreads first List.mem_cons_self).read
    have hothers : ∀ value ∈ second :: values, Reads item (write value) value :=
      fun value hvalue => hreads value (List.mem_cons_of_mem _ hvalue)
    have hlen : values.length < fuel := by
      rw [List.length_cons] at hfuel
      omega
    have hrest := ih fuel hothers hlen
    have hstarts : StartsItem ((',' :: space).intercalate ((second :: values).map write) ++
        (close ++ ']' :: rest)) :=
      ((hothers second List.mem_cons_self).starts.intercalate _ _).append _
    obtain ⟨c, tail, hstart, hc, hne⟩ := hstarts
    simp only [List.map_cons] at hrest hstart ⊢
    rw [List.intercalate_cons_cons, List.append_assoc, List.append_assoc, List.cons_append, hstart]
    simp only [readItemsWithin, hfirst, skipSpace_cons (show isSpace ',' = false by decide),
      skipSpace_append hspace, skipSpace_cons hc]
    split
    · next heq => exact absurd heq (List.cons_ne_nil _ _)
    · next heq => exact absurd (List.cons.inj heq).1 hne
    · rw [← hstart, hrest]

end Items

end HistoryExpansion.Json
