import HistoryExpansion.Proofs.Json.Literal
import Mathlib.Data.List.TakeWhile

/-!
# What a text begins with

`Begins g text rest value` says that, behind spaces, `text` begins with what the rules `g` write for
the value and goes on with `rest`. This is what a reader has to find out, and the rules of the
grammar are put here into the order in which a reader does it: one token after the other, with the
spaces in front of it passed over: a string (`begins_string_iff`), a list or an object
(`begins_list_iff`, `begins_object_iff`), their items (`begins_closed_iff`), and a member
(`begins_member_iff`).
-/

namespace HistoryExpansion.Json

/-! ## Spaces -/

theorem Spaces.skipSpace_append {lead : List Char} (h : Spaces lead) (text : List Char) :
    skipSpace (lead ++ text) = skipSpace text :=
  Json.skipSpace_append (fun c hc => isSpace_iff.2 (h c hc)) text

/-- What is passed over are spaces. -/
theorem exists_spaces {text rest : List Char} (h : skipSpace text = rest) :
    ∃ lead, Spaces lead ∧ text = lead ++ rest := by
  refine ⟨text.takeWhile isSpace, fun c hc => isSpace_iff.1 (List.mem_takeWhile_imp hc), ?_⟩
  rw [← h]
  exact List.takeWhile_append_dropWhile.symm

theorem StartsItem.skipSpace_eq {text : List Char} (h : StartsItem text) :
    skipSpace text = text := by
  obtain ⟨c, tail, rfl, hc, -⟩ := h
  exact skipSpace_cons hc tail

theorem length_skipSpace_le (text : List Char) : (skipSpace text).length ≤ text.length :=
  (List.dropWhile_suffix _).length_le

theorem length_lt_of_skipSpace {text tail : List Char} {c : Char} (h : skipSpace text = c :: tail) :
    tail.length < text.length := by
  have hle := length_skipSpace_le text
  rw [h, List.length_cons] at hle
  exact hle

/-! ## The front of a text -/

section Begins

variable {α : Type}

/-- Behind spaces, a text begins with what is written for a value. -/
def Begins (g : List Char → α → Prop) (text rest : List Char) (value : α) : Prop :=
  ∃ lead written, text = lead ++ (written ++ rest) ∧ Spaces lead ∧ g written value

variable {g : List Char → α → Prop} {text rest : List Char} {value : α}

theorem begins_of_skipSpace_eq {written : List Char} (h : skipSpace text = written ++ rest)
    (hwritten : g written value) : Begins g text rest value := by
  obtain ⟨lead, hlead, rfl⟩ := exists_spaces h
  exact ⟨lead, written, rfl, hlead, hwritten⟩

theorem Begins.of_skipSpace (h : Begins g (skipSpace text) rest value) :
    Begins g text rest value := by
  obtain ⟨lead, written, htext, hlead, hwritten⟩ := h
  obtain ⟨space, hspace, heq⟩ := exists_spaces htext
  refine ⟨space ++ lead, written, ?_, List.forall_mem_append.2 ⟨hspace, hlead⟩, hwritten⟩
  rw [heq, List.append_assoc]

section Starts

variable (hstarts : ∀ {written : List Char} {value : α}, g written value → StartsItem written)

include hstarts

theorem begins_iff : Begins g text rest value ↔
    ∃ written, skipSpace text = written ++ rest ∧ g written value := by
  constructor
  · rintro ⟨lead, written, rfl, hlead, hwritten⟩
    refine ⟨written, ?_, hwritten⟩
    rw [hlead.skipSpace_append, ((hstarts hwritten).append rest).skipSpace_eq]
  · rintro ⟨written, htext, hwritten⟩
    exact begins_of_skipSpace_eq htext hwritten

/-- Spaces in front do not count. -/
theorem begins_skipSpace : Begins g (skipSpace text) rest value ↔ Begins g text rest value := by
  refine ⟨Begins.of_skipSpace, fun h => ?_⟩
  obtain ⟨written, htext, hwritten⟩ := (begins_iff hstarts).1 h
  exact ⟨[], written, htext, fun _ hc => absurd hc List.not_mem_nil, hwritten⟩

theorem Begins.startsItem (h : Begins g text rest value) : StartsItem (skipSpace text) := by
  obtain ⟨written, htext, hwritten⟩ := (begins_iff hstarts).1 h
  rw [htext]
  exact (hstarts hwritten).append rest

theorem Begins.length_lt (h : Begins g text rest value) : rest.length < text.length := by
  obtain ⟨lead, written, rfl, -, hwritten⟩ := h
  obtain ⟨c, tail, rfl, -, -⟩ := hstarts hwritten
  simp only [List.length_append, List.length_cons]
  omega

end Starts

end Begins

/-! ## Lists and objects -/

section Lists

variable {α : Type} {item : List Char → α → Prop} {opening closing : Char} {text rest : List Char}
  {values : List α}

/-- Items with spaces and a closing bracket behind them. -/
def Closed (closing : Char) (item : List Char → α → Prop) (written : List Char)
    (values : List α) : Prop :=
  ∃ text trail, written = text ++ (trail ++ [closing]) ∧ Spaces trail ∧ Items item text values

theorem Closed.starts
    (hstarts : ∀ {written : List Char} {value : α}, item written value → StartsItem written)
    {written : List Char} (h : Closed closing item written values) : StartsItem written := by
  obtain ⟨text, trail, rfl, -, hitems⟩ := h
  exact (hitems.starts hstarts).append _

theorem skipSpace_eq_of_spaces {lead : List Char} (h : Spaces lead) {c : Char}
    (hc : isSpace c = false) (tail : List Char) : skipSpace (lead ++ c :: tail) = c :: tail := by
  rw [h.skipSpace_append, skipSpace_cons hc]

/-- An item with the closing bracket behind it is the last one. -/
theorem Begins.last {behind : List Char} {value : α} (h : Begins item text behind value)
    (hend : skipSpace behind = closing :: rest) :
    Begins (Closed closing item) text rest [value] := by
  obtain ⟨lead, written, rfl, hlead, hwritten⟩ := h
  obtain ⟨trail, htrail, rfl⟩ := exists_spaces hend
  refine ⟨lead, _, ?_, hlead, written, trail, rfl, htrail, .last hwritten⟩
  simp only [List.append_assoc, List.cons_append, List.nil_append]

/-- An item with a comma behind it has more of them behind that. -/
theorem Begins.next {behind tail : List Char} {value : α} (h : Begins item text behind value)
    (hcomma : skipSpace behind = ',' :: tail)
    (htail : Begins (Closed closing item) tail rest values) :
    Begins (Closed closing item) text rest (value :: values) := by
  obtain ⟨lead, written, rfl, hlead, hwritten⟩ := h
  obtain ⟨before, hbefore, rfl⟩ := exists_spaces hcomma
  obtain ⟨inner, -, rfl, hinner, text, trail, rfl, htrail, hitems⟩ := htail
  refine ⟨lead, _, ?_, hlead, _, trail, rfl, htrail, .next hwritten hbefore hinner hitems⟩
  simp only [List.append_assoc, List.cons_append, List.nil_append]

section Closing

variable (hclosing : isSpace closing = false)

include hclosing

/-- Brackets hold nothing, or items up to the closing one. -/
theorem begins_bracketed_iff (hopening : isSpace opening = false) :
    Begins (Bracketed opening closing item) text rest values ↔
      ∃ tail, skipSpace text = opening :: tail ∧
        ((values = [] ∧ skipSpace tail = closing :: rest) ∨
          Begins (Closed closing item) tail rest values) := by
  constructor
  · rintro ⟨lead, written, rfl, hlead, hwritten⟩
    cases hwritten with
    | @empty space hspace =>
      refine ⟨space ++ closing :: rest, ?_, .inl ⟨rfl, skipSpace_eq_of_spaces hspace hclosing rest⟩⟩
      simp only [List.cons_append, List.append_assoc, List.nil_append,
        skipSpace_eq_of_spaces hlead hopening]
    | @full inner text trail _ hinner htrail hitems =>
      refine ⟨inner ++ (text ++ (trail ++ [closing]) ++ rest), ?_,
        .inr ⟨inner, _, rfl, hinner, text, trail, rfl, htrail, hitems⟩⟩
      simp only [List.cons_append, List.append_assoc, List.nil_append,
        skipSpace_eq_of_spaces hlead hopening]
  · rintro ⟨tail, htext, ⟨rfl, htail⟩ | ⟨inner, -, rfl, hinner, text, trail, rfl, htrail, hitems⟩⟩
    · obtain ⟨space, hspace, rfl⟩ := exists_spaces htail
      refine begins_of_skipSpace_eq ?_ (.empty hspace)
      simpa only [List.cons_append, List.append_assoc, List.nil_append] using htext
    · refine begins_of_skipSpace_eq ?_ (.full hinner htrail hitems)
      simpa only [List.cons_append, List.append_assoc, List.nil_append] using htext

/-- Items up to a closing bracket are one item, and then that bracket or a comma and more items. -/
theorem begins_closed_iff :
    Begins (Closed closing item) text rest values ↔
      ∃ first others behind, values = first :: others ∧ Begins item text behind first ∧
        ((others = [] ∧ skipSpace behind = closing :: rest) ∨
          ∃ tail, skipSpace behind = ',' :: tail ∧
            Begins (Closed closing item) tail rest others) := by
  constructor
  · rintro ⟨lead, -, rfl, hlead, text, trail, rfl, htrail, hitems⟩
    cases hitems with
    | @last written first h =>
      refine ⟨first, [], trail ++ closing :: rest, rfl, ⟨lead, _, ?_, hlead, h⟩,
        .inl ⟨rfl, skipSpace_eq_of_spaces htrail hclosing rest⟩⟩
      simp only [List.append_assoc, List.cons_append, List.nil_append]
    | @next written before inner text first others h hbefore hinner hitems =>
      refine ⟨first, others, before ++ ',' :: (inner ++ (text ++ (trail ++ [closing]) ++ rest)),
        rfl, ⟨lead, _, ?_, hlead, h⟩, .inr ⟨_, skipSpace_eq_of_spaces hbefore (by decide) _, inner,
          _, rfl, hinner, text, trail, rfl, htrail, hitems⟩⟩
      simp only [List.append_assoc, List.cons_append, List.nil_append]
  · rintro ⟨first, others, behind, rfl, hfirst, ⟨rfl, hend⟩ | ⟨tail, hcomma, htail⟩⟩
    · exact hfirst.last hend
    · exact hfirst.next hcomma htail

end Closing

end Lists

/-! ## Members and values -/

section Values

variable {text rest : List Char}

theorem begins_literal_iff {found : List Nat} : Begins Literal text rest found ↔
    ∃ tail, skipSpace text = '"' :: tail ∧ Closes tail rest found := by
  constructor
  · rintro ⟨lead, -, rfl, hlead, body, rfl, hbody⟩
    refine ⟨body ++ '"' :: rest, ?_, body, rfl, hbody⟩
    simp only [List.cons_append, List.append_assoc, List.nil_append,
      skipSpace_eq_of_spaces hlead (show isSpace '"' = false by decide)]
  · rintro ⟨tail, htext, hcloses⟩
    obtain ⟨written, hwritten, hliteral⟩ := closes_iff_literal.1 hcloses
    exact begins_of_skipSpace_eq (htext.trans hwritten) hliteral

theorem Member.starts {value : List Char → Value → Prop} {written : List Char}
    {member : List Nat × Value} (h : Member value written member) : StartsItem written := by
  cases h with
  | mk hkey => exact (Writes.string hkey).starts.append _

theorem begins_member_iff {value : List Char → Value → Prop} {member : List Nat × Value} :
    Begins (Member value) text rest member ↔
      ∃ behind tail, Begins Literal text behind member.1 ∧ skipSpace behind = ':' :: tail ∧
        Begins value tail rest member.2 := by
  constructor
  · rintro ⟨lead, -, rfl, hlead, ⟨hkey, hbefore, hbehind, hvalue⟩⟩
    refine ⟨_, _, ⟨lead, _, ?_, hlead, hkey⟩, skipSpace_eq_of_spaces hbefore (by decide) _, _, _,
      rfl, hbehind, hvalue⟩
    simp only [List.append_assoc, List.cons_append]
  · obtain ⟨found, said⟩ := member
    rintro ⟨behind, tail, ⟨lead, key, rfl, hlead, hkey⟩, hcolon, inner, written, rfl, hinner,
      hvalue⟩
    obtain ⟨before, hbefore, rfl⟩ := exists_spaces hcolon
    refine ⟨lead, _, ?_, hlead, .mk hkey hbefore hinner hvalue⟩
    simp only [List.append_assoc, List.cons_append]

/-- Members begin with the quote of the first key. -/
theorem Begins.quote {value : List Char → Value → Prop} {closing : Char}
    {members : List (List Nat × Value)} (hclosing : isSpace closing = false)
    (h : Begins (Closed closing (Member value)) text rest members) :
    ∃ tail, skipSpace text = '"' :: tail := by
  obtain ⟨first, -, behind, -, hfirst, -⟩ := (begins_closed_iff hclosing).1 h
  obtain ⟨_, _, hkey, -⟩ := begins_member_iff.1 hfirst
  obtain ⟨tail, htail, -⟩ := begins_literal_iff.1 hkey
  exact ⟨tail, htail⟩

theorem begins_string_iff {found : List Nat} : Begins Writes text rest (.string found) ↔
    ∃ tail, skipSpace text = '"' :: tail ∧ Closes tail rest found := by
  rw [← begins_literal_iff]
  constructor
  · rintro ⟨lead, written, htext, hlead, h⟩
    cases h with
    | string h => exact ⟨lead, written, htext, hlead, h⟩
  · rintro ⟨lead, written, htext, hlead, h⟩
    exact ⟨lead, written, htext, hlead, .string h⟩

theorem begins_list_iff {items : List Value} : Begins Writes text rest (.list items) ↔
    ∃ tail, skipSpace text = '[' :: tail ∧
      ((items = [] ∧ skipSpace tail = ']' :: rest) ∨
        Begins (Closed ']' Writes) tail rest items) := by
  rw [← begins_bracketed_iff (by decide) (by decide)]
  constructor
  · rintro ⟨lead, written, htext, hlead, h⟩
    cases h with
    | list h => exact ⟨lead, written, htext, hlead, h⟩
  · rintro ⟨lead, written, htext, hlead, h⟩
    exact ⟨lead, written, htext, hlead, .list h⟩

theorem begins_object_iff {members : List (List Nat × Value)} :
    Begins Writes text rest (.object members) ↔
      ∃ tail, skipSpace text = '\x7b' :: tail ∧
        ((members = [] ∧ skipSpace tail = '\x7d' :: rest) ∨
          Begins (Closed '\x7d' (Member Writes)) tail rest members) := by
  rw [← begins_bracketed_iff (by decide) (by decide)]
  constructor
  · rintro ⟨lead, written, htext, hlead, h⟩
    cases h with
    | object h => exact ⟨lead, written, htext, hlead, h⟩
  · rintro ⟨lead, written, htext, hlead, h⟩
    exact ⟨lead, written, htext, hlead, .object h⟩

end Values

end HistoryExpansion.Json
