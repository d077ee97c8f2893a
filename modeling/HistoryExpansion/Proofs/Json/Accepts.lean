import HistoryExpansion.Proofs.Json.Begins
import Mathlib.Data.List.Forall2

/-!
# Strings and lists are read by the grammar

`Accepts read means` says that a reader takes exactly those values that mean something to it, and
gives what they mean. A reader of strings accepts the literals that stand for a text
(`accepts_readString`), and a reader of lists accepts the lists all of whose items its reader of
items accepts (`accepts_readList`).
-/

namespace HistoryExpansion.Json

/-- A reader takes exactly the values that mean something and gives what they mean. -/
structure Accepts {α : Type} (read : Reader α) (means : Value → α → Prop) : Prop where
  read_iff {text rest : List Char} {found : α} : read text = .ok (found, rest) ↔
    ∃ value, Begins Writes text rest value ∧ means value found

/-- A value is a string that stands for a text. -/
def IsText (value : Value) (text : String) : Prop :=
  value = .string (units text.toList)

/-- A value is a list of values each of which means something. -/
def IsListOf {α : Type} (means : Value → α → Prop) (value : Value) (found : List α) : Prop :=
  ∃ items, value = .list items ∧ List.Forall₂ means items found

/-! ## Strings -/

/-- **Strings** are read if they stand for a text. -/
theorem accepts_readString : Accepts readString IsText := by
  refine ⟨fun {text rest found} => ?_⟩
  constructor
  · intro h
    unfold readString at h
    split at h
    · next tail hquote =>
      obtain ⟨⟨characters, behind⟩, hread, heq⟩ := map_eq_ok_iff.1 h
      cases heq
      have hcloses := readQuoted_eq_ok_iff.1 hread
      refine ⟨_, begins_string_iff.2 ⟨tail, hquote, hcloses⟩, ?_⟩
      rw [IsText, String.toList_ofList]
    · cases h
  · rintro ⟨value, hbegins, rfl⟩
    obtain ⟨tail, hquote, hcloses⟩ := begins_string_iff.1 hbegins
    simp only [readString, hquote, readQuoted_eq_ok_iff.2 hcloses, Except.map, String.ofList_toList]

/-! ## Lists -/

section Lists

variable {α : Type} {item : Reader α} {means : Value → α → Prop} (hitem : Accepts item means)

include hitem

/-- What is read as the items of a list are items. -/
theorem begins_of_readItemsWithin {fuel : Nat} {text rest : List Char} {found : List α}
    (h : readItemsWithin item fuel text = .ok (found, rest)) :
    ∃ values, Begins (Closed ']' Writes) text rest values ∧ List.Forall₂ means values found := by
  induction fuel generalizing text found with
  | zero => cases h
  | succ fuel ih =>
    rw [readItemsWithin] at h
    split at h
    · cases h
    · next first behind hfirst =>
      obtain ⟨value, hvalue, hmeans⟩ := hitem.read_iff.1 hfirst
      split at h
      · cases h
      · next hend =>
        cases h
        exact ⟨[value], hvalue.last hend, .cons hmeans .nil⟩
      · next tail hcomma =>
        split at h
        · cases h
        · cases h
        · split at h
          · cases h
          · next others _ hothers =>
            cases h
            obtain ⟨values, hvalues, hall⟩ := ih hothers
            exact ⟨_, hvalue.next hcomma hvalues.of_skipSpace, .cons hmeans hall⟩
      · cases h

/-- The items of a list are read, as long as the fuel outlasts them. -/
theorem readItemsWithin_of_begins {fuel : Nat} {text rest : List Char} {values : List Value}
    {found : List α} (h : Begins (Closed ']' Writes) text rest values)
    (hall : List.Forall₂ means values found) (hfuel : text.length < fuel + rest.length) :
    readItemsWithin item fuel text = .ok (found, rest) := by
  induction fuel generalizing text values found with
  | zero =>
    have hlt := h.length_lt (Closed.starts Writes.starts)
    omega
  | succ fuel ih =>
    obtain ⟨first, others, behind, rfl, hfirst, hnext⟩ := (begins_closed_iff (by decide)).1 h
    have hlt := hfirst.length_lt Writes.starts
    cases hall with
    | cons hmeans hothers =>
      have hread := hitem.read_iff.2 ⟨first, hfirst, hmeans⟩
      rcases hnext with ⟨rfl, hend⟩ | ⟨tail, hcomma, htail⟩
      · cases hothers
        simp only [readItemsWithin, hread, hend]
      · have hcommalt := length_lt_of_skipSpace hcomma
        have hskip := length_skipSpace_le tail
        have hrest := ih ((begins_skipSpace (Closed.starts Writes.starts)).2 htail) hothers
          (by omega)
        obtain ⟨c, inner, hstart, -, hne⟩ := htail.startsItem (Closed.starts Writes.starts)
        simp only [readItemsWithin, hread, hcomma]
        split
        · next heq => exact absurd (hstart.symm.trans heq) (List.cons_ne_nil _ _)
        · next heq => exact absurd (List.cons.inj (hstart.symm.trans heq)).1 hne
        · rw [hrest]

/-- **Lists** are read if all their items are. -/
theorem accepts_readList : Accepts (readList item) (IsListOf means) := by
  refine ⟨fun {text rest found} => ?_⟩
  constructor
  · intro h
    unfold readList at h
    split at h
    · next tail hopening =>
      split at h
      · cases h
      · next hend =>
        cases h
        exact ⟨_, begins_list_iff.2 ⟨tail, hopening, .inl ⟨rfl, hend⟩⟩, [], rfl, .nil⟩
      · obtain ⟨values, hvalues, hall⟩ := begins_of_readItemsWithin hitem h
        exact ⟨_, begins_list_iff.2 ⟨tail, hopening, .inr hvalues.of_skipSpace⟩, values, rfl, hall⟩
    · cases h
  · rintro ⟨-, hbegins, items, rfl, hall⟩
    obtain ⟨tail, hopening, ⟨rfl, hend⟩ | hitems⟩ :=
      begins_list_iff.1 hbegins
    · cases hall
      simp only [readList, hopening, hend]
    · have hread := readItemsWithin_of_begins hitem
        ((begins_skipSpace (Closed.starts Writes.starts)).2 hitems) hall
        (Nat.lt_of_lt_of_le (Nat.lt_succ_self _) (Nat.le_add_right _ _))
      obtain ⟨c, inner, hstart, -, hne⟩ := hitems.startsItem (Closed.starts Writes.starts)
      simp only [readList, hopening]
      split
      · next heq => exact absurd (hstart.symm.trans heq) (List.cons_ne_nil _ _)
      · next heq => exact absurd (List.cons.inj (hstart.symm.trans heq)).1 hne
      · exact hread

end Lists

end HistoryExpansion.Json
