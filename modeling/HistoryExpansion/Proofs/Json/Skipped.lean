import HistoryExpansion.Proofs.Json.Begins
import HistoryExpansion.Proofs.Json.Number

/-!
# Values are passed over by the grammar

Passing over a value takes what the grammar calls one, of any nesting (`begins_of_skipValue`), and
takes every such value, unless what stands behind it could go on with a number
(`skipValue_of_begins`). Values, items and members are passed over by one recursion, so both
directions are proved for the three of them at once, by induction on the fuel. The fuel lasts since
each level of nesting and each item takes at least one character.
-/

namespace HistoryExpansion.Json

theorem readWord_eq_ok_iff {word text rest : List Char} :
    readWord word text = .ok rest ↔ text = word ++ rest := by
  induction word generalizing text with
  | nil => simp only [readWord, Except.ok.injEq, List.nil_append]
  | cons w word ih =>
    cases text with
    | nil => simp only [readWord, List.cons_append, reduceCtorEq]
    | cons c text =>
      rw [readWord, List.cons_append, List.cons.injEq]
      split
      · next hc => rw [ih, hc, eq_self, true_and]
      · next hc => simp only [reduceCtorEq, false_iff, not_and, Ne.symm hc, false_implies]

/-! ## What is passed over is a value -/

/-- All that is passed over with some fuel is written by the grammar. -/
structure SkipsOnly (fuel : Nat) : Prop where
  value {text rest : List Char} (h : skipValueWithin fuel text = .ok rest) :
    ∃ value, Begins Writes text rest value
  items {text rest : List Char} (h : skipItemsWithin fuel text = .ok rest) :
    ∃ values, Begins (Closed ']' Writes) text rest values
  members {text rest : List Char} (h : skipMembersWithin fuel text = .ok rest) :
    ∃ members, Begins (Closed '\x7d' (Member Writes)) text rest members

namespace SkipsOnly

variable {fuel : Nat} {text rest : List Char}

theorem succ_value (ih : SkipsOnly fuel) (h : skipValueWithin (fuel + 1) text = .ok rest) :
    ∃ value, Begins Writes text rest value := by
  rw [skipValueWithin] at h
  split at h
  · cases h
  · next htext =>
    rw [readWord_eq_ok_iff.1 h] at htext
    exact ⟨_, begins_of_skipSpace_eq htext .null⟩
  · next htext =>
    rw [readWord_eq_ok_iff.1 h] at htext
    exact ⟨_, begins_of_skipSpace_eq htext .true⟩
  · next htext =>
    rw [readWord_eq_ok_iff.1 h] at htext
    exact ⟨_, begins_of_skipSpace_eq htext .false⟩
  · next htext =>
    obtain ⟨found, hfound⟩ := skipQuoted_eq_ok_iff.1 h
    exact ⟨_, begins_string_iff.2 ⟨_, htext, hfound⟩⟩
  · next htext =>
    obtain ⟨number, hnumber, hunsigned⟩ := unsigned_of_skipNumber h
    rw [hnumber] at htext
    exact ⟨_, begins_of_skipSpace_eq htext (.number ⟨['-'], by decide, number, rfl, hunsigned⟩)⟩
  · next tail htext =>
    split at h
    · next hend =>
      cases h
      exact ⟨_, begins_list_iff.2 ⟨tail, htext, .inl ⟨rfl, hend⟩⟩⟩
    · obtain ⟨values, hvalues⟩ := ih.items h
      exact ⟨_, begins_list_iff.2 ⟨tail, htext, .inr hvalues.of_skipSpace⟩⟩
  · next tail htext =>
    split at h
    · next hend =>
      cases h
      exact ⟨_, begins_object_iff.2 ⟨tail, htext, .inl ⟨rfl, hend⟩⟩⟩
    · obtain ⟨members, hmembers⟩ := ih.members h
      exact ⟨_, begins_object_iff.2 ⟨tail, htext, .inr hmembers.of_skipSpace⟩⟩
  · split at h
    · next htext _ =>
      obtain ⟨number, hnumber, hunsigned⟩ := unsigned_of_skipNumber h
      rw [hnumber] at htext
      exact ⟨_, begins_of_skipSpace_eq htext (.number ⟨[], by decide, number, rfl, hunsigned⟩)⟩
    · cases h

theorem succ_items (ih : SkipsOnly fuel) (h : skipItemsWithin (fuel + 1) text = .ok rest) :
    ∃ values, Begins (Closed ']' Writes) text rest values := by
  rw [skipItemsWithin] at h
  split at h
  · cases h
  · next behind hvalue =>
    obtain ⟨value, hvalue⟩ := ih.value hvalue
    split at h
    · cases h
    · next tail hcomma =>
      obtain ⟨values, hvalues⟩ := ih.items h
      exact ⟨value :: values, hvalue.next hcomma hvalues⟩
    · next hend =>
      cases h
      exact ⟨[value], hvalue.last hend⟩
    · cases h

theorem succ_members (ih : SkipsOnly fuel) (h : skipMembersWithin (fuel + 1) text = .ok rest) :
    ∃ members, Begins (Closed '\x7d' (Member Writes)) text rest members := by
  rw [skipMembersWithin] at h
  split at h
  · cases h
  · next hquote =>
    split at h
    · cases h
    · next behind hkey =>
      obtain ⟨found, hfound⟩ := skipQuoted_eq_ok_iff.1 hkey
      have hkey := begins_literal_iff.2 ⟨_, hquote, hfound⟩
      split at h
      · cases h
      · next tail hcolon =>
        split at h
        · cases h
        · next left hvalue =>
          obtain ⟨value, hvalue⟩ := ih.value hvalue
          have hmember : Begins (Member Writes) text left (found, value) :=
            begins_member_iff.2 ⟨behind, tail, hkey, hcolon, hvalue⟩
          split at h
          · cases h
          · next tail hcomma =>
            obtain ⟨members, hmembers⟩ := ih.members h
            exact ⟨_, hmember.next hcomma hmembers⟩
          · next hend =>
            cases h
            exact ⟨_, hmember.last hend⟩
          · cases h
      · cases h
  · cases h

end SkipsOnly

theorem skipsOnly (fuel : Nat) : SkipsOnly fuel := by
  induction fuel with
  | zero => refine ⟨?_, ?_, ?_⟩ <;> rintro _ _ ⟨⟩
  | succ fuel ih => exact ⟨ih.succ_value, ih.succ_items, ih.succ_members⟩

/-- **What is passed over** is a value. -/
theorem begins_of_skipValue {text rest : List Char} (h : skipValue text = .ok rest) :
    ∃ value, Begins Writes text rest value :=
  (skipsOnly _).value h

/-! ## Every value is passed over -/

/-- A number stops before the token that goes on with a list or an object. -/
theorem stops_of_skipSpace {text tail : List Char} {c : Char} (h : skipSpace text = c :: tail)
    (hc : c ∈ [',', ']', '\x7d']) : Stops text := by
  obtain ⟨lead, hlead, rfl⟩ := exists_spaces h
  intro d hd
  cases lead with
  | nil =>
    cases hd
    simp only [List.mem_cons, List.not_mem_nil, or_false] at hc
    rcases hc with rfl | rfl | rfl <;> decide
  | cons e lead =>
    cases hd
    have hspace := hlead d List.mem_cons_self
    simp only [List.mem_cons, List.not_mem_nil, or_false] at hspace
    rcases hspace with rfl | rfl | rfl | rfl <;> decide

theorem skipValueWithin_digit {c : Char} (hc : isDigit c = true) {text tail : List Char}
    (h : skipSpace text = c :: tail) (fuel : Nat) :
    skipValueWithin (fuel + 1) text = skipNumber (c :: tail) := by
  rw [skipValueWithin, h]
  -- no digit starts any of the seven other kinds of value
  split <;> rename_i heq <;> cases heq
  iterate 7 exact absurd hc (by decide)
  exact if_pos hc

/-- All that the grammar writes is passed over with some fuel. -/
structure SkipsAll (fuel : Nat) : Prop where
  value {text rest : List Char} {value : Value} (h : Begins Writes text rest value)
    (hstops : Stops rest) (hfuel : 2 * text.length ≤ fuel + 2 * rest.length) :
    skipValueWithin fuel text = .ok rest
  items {text rest : List Char} {values : List Value}
    (h : Begins (Closed ']' Writes) text rest values)
    (hfuel : 2 * text.length + 1 ≤ fuel + 2 * rest.length) : skipItemsWithin fuel text = .ok rest
  members {text rest : List Char} {members : List (List Nat × Value)}
    (h : Begins (Closed '\x7d' (Member Writes)) text rest members)
    (hfuel : 2 * text.length + 1 ≤ fuel + 2 * rest.length) : skipMembersWithin fuel text = .ok rest

namespace SkipsAll

variable {fuel : Nat} {text rest : List Char}

theorem succ_value (ih : SkipsAll fuel) {value : Value} (h : Begins Writes text rest value)
    (hstops : Stops rest) (hfuel : 2 * text.length ≤ fuel + 1 + 2 * rest.length) :
    skipValueWithin (fuel + 1) text = .ok rest := by
  obtain ⟨written, htext, hwritten⟩ := (begins_iff Writes.starts).1 h
  cases hwritten with
  | null =>
    rw [skipValueWithin, htext]
    exact readWord_eq_ok_iff.2 rfl
  | true =>
    rw [skipValueWithin, htext]
    exact readWord_eq_ok_iff.2 rfl
  | false =>
    rw [skipValueWithin, htext]
    exact readWord_eq_ok_iff.2 rfl
  | number hnumber =>
    obtain ⟨sign, hsign, number, rfl, hunsigned⟩ := hnumber
    have hend := skipNumber_append hunsigned hstops
    simp only [List.mem_cons, List.not_mem_nil, or_false] at hsign
    rcases hsign with rfl | rfl
    · obtain ⟨c, tail, rfl, hc⟩ := hunsigned.exists_cons
      rw [skipValueWithin_digit hc htext]
      exact hend
    · rw [skipValueWithin, htext]
      exact hend
  | string =>
    obtain ⟨tail, htail, hcloses⟩ := begins_string_iff.1 h
    rw [skipValueWithin, htail]
    exact skipQuoted_eq_ok_iff.2 ⟨_, hcloses⟩
  | list =>
    obtain ⟨tail, htail, ⟨rfl, hend⟩ | hitems⟩ :=
      begins_list_iff.1 h
    · simp only [skipValueWithin, htail, hend]
    · have hlen := length_lt_of_skipSpace htail
      have hskip := length_skipSpace_le tail
      have hrest := ih.items ((begins_skipSpace (Closed.starts Writes.starts)).2 hitems) (by omega)
      obtain ⟨c, inner, hstart, -, hne⟩ := hitems.startsItem (Closed.starts Writes.starts)
      simp only [skipValueWithin, htail]
      split
      · next heq => exact absurd (List.cons.inj (hstart.symm.trans heq)).1 hne
      · exact hrest
  | object =>
    obtain ⟨tail, htail, ⟨rfl, hend⟩ | hmembers⟩ :=
      begins_object_iff.1 h
    · simp only [skipValueWithin, htail, hend]
    · have hlen := length_lt_of_skipSpace htail
      have hskip := length_skipSpace_le tail
      have hrest := ih.members ((begins_skipSpace (Closed.starts Member.starts)).2 hmembers)
        (by omega)
      obtain ⟨inner, hquote⟩ := hmembers.quote (by decide)
      simp only [skipValueWithin, htail]
      split
      · next heq => exact absurd (List.cons.inj (hquote.symm.trans heq)).1 (by decide)
      · exact hrest

theorem succ_items (ih : SkipsAll fuel) {values : List Value}
    (h : Begins (Closed ']' Writes) text rest values)
    (hfuel : 2 * text.length + 1 ≤ fuel + 1 + 2 * rest.length) :
    skipItemsWithin (fuel + 1) text = .ok rest := by
  obtain ⟨first, others, behind, rfl, hfirst, ⟨rfl, hend⟩ | ⟨tail, hcomma, hothers⟩⟩ :=
    (begins_closed_iff (by decide)).1 h
  · have hlen := length_lt_of_skipSpace hend
    have hvalue := ih.value hfirst (stops_of_skipSpace hend (by decide)) (by omega)
    simp only [skipItemsWithin, hvalue, hend]
  · have hlen := length_lt_of_skipSpace hcomma
    have hlt := hfirst.length_lt Writes.starts
    have hrest := hothers.length_lt (Closed.starts Writes.starts)
    have hvalue := ih.value hfirst (stops_of_skipSpace hcomma (by decide)) (by omega)
    simp only [skipItemsWithin, hvalue, hcomma]
    exact ih.items hothers (by omega)

theorem succ_members (ih : SkipsAll fuel) {members : List (List Nat × Value)}
    (h : Begins (Closed '\x7d' (Member Writes)) text rest members)
    (hfuel : 2 * text.length + 1 ≤ fuel + 1 + 2 * rest.length) :
    skipMembersWithin (fuel + 1) text = .ok rest := by
  obtain ⟨first, others, behind, rfl, hfirst, hnext⟩ := (begins_closed_iff (by decide)).1 h
  obtain ⟨colon, value, hkey, hcolon, hvalue⟩ := begins_member_iff.1 hfirst
  obtain ⟨quoted, hquote, hcloses⟩ := begins_literal_iff.1 hkey
  have hskipped := skipQuoted_eq_ok_iff.2 ⟨_, hcloses⟩
  have hvaluelt := hvalue.length_lt Writes.starts
  have hcolonlt := length_lt_of_skipSpace hcolon
  have hkeylt := hkey.length_lt fun h => (Writes.string h).starts
  rcases hnext with ⟨rfl, hend⟩ | ⟨tail, hcomma, hothers⟩
  · have hlen := length_lt_of_skipSpace hend
    have hread := ih.value hvalue (stops_of_skipSpace hend (by decide)) (by omega)
    simp only [skipMembersWithin, hquote, hskipped, hcolon, hread, hend]
  · have hlen := length_lt_of_skipSpace hcomma
    have hrest := hothers.length_lt (Closed.starts Member.starts)
    have hread := ih.value hvalue (stops_of_skipSpace hcomma (by decide)) (by omega)
    simp only [skipMembersWithin, hquote, hskipped, hcolon, hread, hcomma]
    exact ih.members hothers (by omega)

end SkipsAll

theorem skipsAll (fuel : Nat) : SkipsAll fuel := by
  induction fuel with
  | zero =>
    refine ⟨fun h _ hfuel => ?_, fun h hfuel => ?_, fun h hfuel => ?_⟩
    · have hlt := h.length_lt Writes.starts
      omega
    · have hlt := h.length_lt (Closed.starts Writes.starts)
      omega
    · have hlt := h.length_lt (Closed.starts Member.starts)
      omega
  | succ fuel ih => exact ⟨ih.succ_value, ih.succ_items, ih.succ_members⟩

/-- **Every value is passed over**, if nothing stands behind it that could go on with a number. -/
theorem skipValue_of_begins {text rest : List Char} {value : Value}
    (h : Begins Writes text rest value) (hstops : Stops rest) : skipValue text = .ok rest :=
  (skipsAll _).value h hstops (by omega)

end HistoryExpansion.Json
