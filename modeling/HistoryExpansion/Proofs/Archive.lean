import HistoryExpansion.Archive

/-!
# What an archive holds

An archive is read by `get?`. `get?_put` and `get?_push` say what a change does to all sessions at
once: the session named gets its new record and no other session is touched. The records of an
archive stand in order, so restoring an archive from them gives them back, each cut to the window
(`records_restore`); where the window already bounds them (`Bounded`), it gives back the archive
itself (`restore_records`).
-/

namespace HistoryExpansion

/-! ## Records in order -/

theorem find?_session_cons (head : Record) (rest : List Record) (session : String) :
    (head :: rest).find? (·.session == session) =
      if head.session = session then some head else rest.find? (·.session == session) := by
  by_cases h : head.session = session
  · rw [if_pos h, List.find?_cons_of_pos (by simpa using h)]
  · rw [if_neg h, List.find?_cons_of_neg (by simpa using h)]

theorem find?_placeRecord (record : Record) (records : List Record) (session : String) :
    (placeRecord record records).find? (·.session == session) =
      if record.session = session then some record else records.find? (·.session == session) := by
  induction records with
  | nil => exact find?_session_cons record [] session
  | cons head rest ih =>
    unfold placeRecord
    split
    · exact find?_session_cons record (head :: rest) session
    · split
      · next heq =>
        rw [find?_session_cons, find?_session_cons, heq]
        split <;> rfl
      · next hne =>
        rw [find?_session_cons, find?_session_cons, ih]
        by_cases h : record.session = session
        · rw [if_pos h, if_pos h, if_neg fun hhead => hne (h.trans hhead.symm)]
        · rw [if_neg h, if_neg h]

/-- A record whose session comes after all others is put at the end. -/
theorem placeRecord_of_lt {record : Record} {records : List Record}
    (h : ∀ other ∈ records, other.session < record.session) :
    placeRecord record records = records ++ [record] := by
  induction records with
  | nil => rfl
  | cons head rest ih =>
    have hhead := h head List.mem_cons_self
    have hrest := ih fun other hother => h other (List.mem_cons_of_mem _ hother)
    have hne : record.session ≠ head.session := fun heq =>
      String.lt_irrefl _ (heq ▸ hhead)
    rw [placeRecord, if_neg (String.lt_asymm hhead), if_neg hne, hrest]
    rfl

/-! ## Newest elements -/

theorem newest_of_length_le {α : Type} {limit : Nat} {items : List α} (h : items.length ≤ limit) :
    newest limit items = items := by
  rw [newest, Nat.sub_eq_zero_of_le h, List.drop_zero]

/-- The newest elements are an end of the list, as long as the limit allows. Only one end has that
length, so this says which elements they are. -/
theorem newest_isSuffix {α : Type} (limit : Nat) (items : List α) :
    newest limit items <:+ items ∧ (newest limit items).length = min items.length limit :=
  ⟨List.drop_suffix _ _, by rw [length_newest, Nat.min_comm]⟩

/-- What is cut from some commands for a session, unless there is nothing to be cut from. -/
theorem exists_cut_iff {absent : Prop} [Decidable absent] {found : Option Record} {window : Nat}
    {session : String} {commands : List String}
    (h : found = if absent then none else some ⟨session, newest window commands⟩) :
    (found = none ↔ absent) ∧
      (¬absent → ∃ kept, found = some ⟨session, kept⟩ ∧ kept <:+ commands ∧
        kept.length = min commands.length window) := by
  by_cases habsent : absent
  · rw [if_pos habsent] at h
    exact ⟨iff_of_true h habsent, fun hpresent => absurd habsent hpresent⟩
  · rw [if_neg habsent] at h
    subst h
    exact ⟨iff_of_false nofun habsent, fun _ => ⟨_, rfl, newest_isSuffix window commands⟩⟩

theorem length_newest_le {α : Type} (limit : Nat) (items : List α) :
    (newest limit items).length ≤ limit := by
  rw [length_newest]
  exact Nat.min_le_left _ _

theorem newest_newest {α : Type} {inner outer : Nat} (h : inner ≤ outer) (items : List α) :
    newest inner (newest outer items) = newest inner items := by
  simp only [newest, List.length_drop, List.drop_drop]
  congr 1
  omega

/-- An element more takes the place of the oldest of the newest ones. -/
theorem newest_concat {α : Type} {limit : Nat} {items : List α} (hpos : 0 < limit)
    (h : limit ≤ items.length) (item : α) :
    newest limit (items ++ [item]) = (newest limit items).tail ++ [item] := by
  have hlength : (items ++ [item]).length - limit = items.length - limit + 1 := by
    rw [List.length_append, List.length_singleton]
    omega
  rw [newest, newest, List.tail_drop, hlength, List.drop_append_of_le_length (by omega)]

/-- The oldest of the newest elements. -/
theorem newest_eq_cons {α : Type} {limit : Nat} {items : List α} (hpos : 0 < limit)
    (h : limit ≤ items.length) :
    ∃ item others, newest limit items = item :: others ∧
      items[items.length - limit]? = some item := by
  have hlt : items.length - limit < items.length := by omega
  exact ⟨items[items.length - limit], items.drop (items.length - limit + 1),
    List.drop_eq_getElem_cons hlt, List.getElem?_eq_getElem hlt⟩

/-- The newest elements of a list with one more are that one and the newest others. -/
theorem newest_succ_concat {α : Type} (limit : Nat) (items : List α) (item : α) :
    newest (limit + 1) (items ++ [item]) = newest limit items ++ [item] := by
  have hlength : (items ++ [item]).length - (limit + 1) = items.length - limit := by
    rw [List.length_append, List.length_singleton]
    omega
  rw [newest, newest, hlength, List.drop_append_of_le_length (by omega)]

/-- The newest elements that are left when fewer than the limit came after an item still have it, as
far from their end as it was. -/
theorem newest_getElem?_back {α : Type} {limit : Nat} {front later : List α} {item : α}
    (h : later.length < limit) :
    (newest limit (front ++ item :: later))[
        (newest limit (front ++ item :: later)).length - (later.length + 1)]? = some item := by
  have hlength : (front ++ item :: later).length = front.length + (later.length + 1) := by
    rw [List.length_append, List.length_cons]
  have hposition : (front ++ item :: later).length - limit +
      ((newest limit (front ++ item :: later)).length - (later.length + 1)) = front.length := by
    rw [length_newest, hlength]
    omega
  generalize (newest limit (front ++ item :: later)).length - (later.length + 1) = back
    at hposition
  rw [newest, List.getElem?_drop, hposition, List.getElem?_append_right (Nat.le_refl _),
    Nat.sub_self, List.getElem?_cons_zero]

namespace Record

theorem trim_of_length_le {window : Nat} {record : Record}
    (h : record.commands.length ≤ window) : record.trim window = record := by
  rw [trim, newest_of_length_le h]

end Record

namespace Archive

variable {archive : Archive} {session command : String}

/-- Archives are equal if their windows and their records are. -/
theorem ext_records {left right : Archive} (hwindow : left.window = right.window)
    (hrecords : left.records = right.records) : left = right := by
  cases left
  cases right
  cases hwindow
  cases hrecords
  rfl

/-! ## One session's record -/

/-- The record that is found for a session is that session's. -/
theorem session_of_get? {record : Record} (h : archive.get? session = some record) :
    record.session = session := by
  have := List.find?_some h
  simpa using this

@[simp] theorem get?_empty (window : Nat) (session : String) :
    (empty window).get? session = none := rfl

theorem get?_put (archive : Archive) (record : Record) (session : String) :
    (archive.put record).get? session =
      if record.session = session then some record else archive.get? session :=
  find?_placeRecord record archive.records session

@[simp] theorem window_put (archive : Archive) (record : Record) :
    (archive.put record).window = archive.window := rfl

@[simp] theorem window_push (archive : Archive) (session command : String) :
    (archive.push session command).window = archive.window := rfl

/-- The session of the record that a push adds to. -/
theorem session_getD_get? (archive : Archive) (session : String) :
    ((archive.get? session).getD ⟨session, []⟩).session = session := by
  cases h : archive.get? session with
  | none => rfl
  | some record => exact session_of_get? h

theorem get?_push_self (archive : Archive) (session command : String) :
    (archive.push session command).get? session =
      some (((archive.get? session).getD ⟨session, []⟩).push archive.window command) := by
  rw [push, get?_put, Record.session_push, session_getD_get?, if_pos rfl]

theorem get?_push_of_ne {other : String} (h : other ≠ session) (command : String) :
    (archive.push other command).get? session = archive.get? session := by
  rw [push, get?_put, Record.session_push, session_getD_get?, if_neg h]

/-! ## Restoring -/

theorem records_foldl_put {archive : Archive} {records : List Record} {window : Nat}
    (hordered : records.Pairwise fun a b => a.session < b.session)
    (hafter : ∀ old ∈ archive.records, ∀ new ∈ records, old.session < new.session) :
    (records.foldl (fun restored record => restored.put (record.trim window)) archive).records =
      archive.records ++ records.map (Record.trim window) := by
  induction records generalizing archive with
  | nil => rw [List.foldl_nil, List.map_nil, List.append_nil]
  | cons first rest ih =>
    obtain ⟨hfirst, hrest⟩ := List.pairwise_cons.1 hordered
    have hplaced : (archive.put (first.trim window)).records =
        archive.records ++ [first.trim window] :=
      placeRecord_of_lt fun old hold => hafter old hold first List.mem_cons_self
    have hbefore : ∀ old ∈ (archive.put (first.trim window)).records, ∀ new ∈ rest,
        old.session < new.session := by
      intro old hold new hnew
      rw [hplaced, List.mem_append, List.mem_singleton] at hold
      rcases hold with hold | rfl
      · exact hafter old hold new (List.mem_cons_of_mem _ hnew)
      · exact hfirst new hnew
    rw [List.foldl_cons, ih hrest hbefore, hplaced, List.append_assoc, List.map_cons]
    rfl

theorem window_foldl_put (archive : Archive) (records : List Record) (window : Nat) :
    (records.foldl (fun restored record => restored.put (record.trim window)) archive).window =
      archive.window := by
  induction records generalizing archive with
  | nil => rfl
  | cons first rest ih => exact ih (archive.put (first.trim window))

@[simp] theorem window_restore (archive : Archive) (records : List Record) :
    (archive.restore records).window = archive.window :=
  window_foldl_put _ _ _

/-- **Restoring the records of an archive** gives them back, each cut to the window. -/
theorem records_restore (archive other : Archive) :
    (archive.restore other.records).records = other.records.map (Record.trim archive.window) :=
  records_foldl_put other.ordered fun _ hold => absurd hold List.not_mem_nil

/-- What a session has after the records of another archive were restored. -/
theorem get?_restore (archive other : Archive) (session : String) :
    (archive.restore other.records).get? session =
      (other.get? session).map (Record.trim archive.window) := by
  rw [get?, records_restore, List.find?_map]
  rfl

/-- No record is longer than the window. -/
def Bounded (archive : Archive) : Prop :=
  ∀ record ∈ archive.records, record.commands.length ≤ archive.window

namespace Bounded

theorem empty (window : Nat) : (Archive.empty window).Bounded :=
  fun _ h => absurd h List.not_mem_nil

theorem put {record : Record} (h : archive.Bounded)
    (hrecord : record.commands.length ≤ archive.window) : (archive.put record).Bounded := by
  intro other hother
  rcases eq_or_mem_of_mem_placeRecord hother with rfl | hother
  · exact hrecord
  · exact h other hother

theorem push (h : archive.Bounded) (session command : String) :
    (archive.push session command).Bounded :=
  h.put (length_newest_le _ _)

theorem foldl_put (h : archive.Bounded) (records : List Record) :
    (records.foldl (fun restored record => restored.put (record.trim archive.window))
      archive).Bounded := by
  induction records generalizing archive with
  | nil => exact h
  | cons first rest ih =>
    have hfirst : (archive.put (first.trim archive.window)).Bounded :=
      h.put (length_newest_le _ _)
    exact ih hfirst

/-- Whatever is restored is cut to the window. -/
theorem restore (archive : Archive) (records : List Record) :
    (archive.restore records).Bounded :=
  (Bounded.empty archive.window).foldl_put records

end Bounded

/-- **Restoring a bounded archive** from its own records gives it back. -/
theorem restore_records {archive : Archive} (h : archive.Bounded) :
    (Archive.empty archive.window).restore archive.records = archive := by
  refine ext_records (window_restore _ _) ?_
  rw [records_restore]
  exact List.map_congr_left (fun record hrecord => Record.trim_of_length_le (h record hrecord))
    |>.trans (List.map_id' _)

end Archive

end HistoryExpansion
