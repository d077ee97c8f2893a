import HistoryExpansion.Proofs.Engine.Sessions

/-!
# Archives do not tell the order

An archive is determined by what it answers (`ext_get?`): its records stand in order, each session
once, so no trace is left of how it came about. A session's record hears of the session's own
commands alone (`get?_pushAll`), and appends that come in another order, but for each session in the
same one, give the same archive (`pushAll_congr`). The list of its records is what sorting by
session makes of them in whatever order they are listed (`mergeSort_records`).
-/

namespace HistoryExpansion.Archive

variable {archive left right : Archive} {session : String}

/-! ## Answers determine an archive -/

theorem get?_eq_some_iff {record : Record} :
    archive.get? session = some record ↔ record ∈ archive.records ∧ record.session = session := by
  refine ⟨fun h => ⟨List.mem_of_find?_eq_some h, session_of_get? h⟩, fun ⟨hmem, hsession⟩ => ?_⟩
  obtain ⟨front, rest, hrecords⟩ := List.append_of_mem hmem
  have hordered := archive.ordered
  rw [hrecords, List.pairwise_append] at hordered
  have hfront : front.find? (·.session == session) = none := by
    rw [List.find?_eq_none]
    intro other hother heq
    have hlt := hordered.2.2 other hother record List.mem_cons_self
    rw [beq_iff_eq.1 heq, hsession] at hlt
    exact String.lt_irrefl _ hlt
  rw [get?, hrecords, List.find?_append, hfront, Option.none_or, find?_session_cons,
    if_pos hsession]

/-- Each session has one record at most. -/
theorem eq_of_session {record other : Record} (h : record ∈ archive.records)
    (hother : other ∈ archive.records) (hsame : record.session = other.session) :
    record = other :=
  Option.some.inj ((get?_eq_some_iff.2 ⟨h, hsame⟩).symm.trans (get?_eq_some_iff.2 ⟨hother, rfl⟩))

theorem nodup_records (archive : Archive) : archive.records.Nodup := by
  refine List.Pairwise.imp (fun hlt => ?_) archive.ordered
  rintro rfl
  exact String.lt_irrefl _ hlt

/-- **Archives are equal** if their windows and all their answers are. -/
theorem ext_get? (hwindow : left.window = right.window)
    (hget : ∀ session, left.get? session = right.get? session) : left = right := by
  refine ext_records hwindow (List.Perm.eq_of_pairwise
    (fun _ _ _ _ hlt hgt => absurd hgt (String.lt_asymm hlt)) left.ordered right.ordered ?_)
  refine (List.perm_ext_iff_of_nodup left.nodup_records right.nodup_records).2 fun record => ?_
  have hsame : left.get? record.session = some record ↔
      right.get? record.session = some record := by
    rw [hget]
  simpa only [get?_eq_some_iff, and_true] using hsame

/-- The records of a session, of which there is one if it has any. -/
theorem filter_records (archive : Archive) (session : String) :
    archive.records.filter (·.session == session) = (archive.get? session).toList := by
  refine List.Perm.eq_of_pairwise (fun _ _ _ _ hlt hgt => absurd hgt (String.lt_asymm hlt))
    (archive.ordered.filter _) ?_ ?_
  · cases archive.get? session with
    | none => exact List.Pairwise.nil
    | some record => exact List.pairwise_singleton _ _
  · refine (List.perm_ext_iff_of_nodup (archive.nodup_records.filter _) ?_).2 fun record => ?_
    · cases archive.get? session with
      | none => exact List.nodup_nil
      | some record => exact List.pairwise_singleton _ _
    · rw [List.mem_filter, beq_iff_eq, Option.mem_toList, get?_eq_some_iff]

/-- The order of records by their sessions, in which two records of one session are level. -/
def bySession (left right : Record) : Bool :=
  left.session ≤ right.session

theorem bySession_iff {left right : Record} :
    bySession left right = true ↔ left.session ≤ right.session :=
  decide_eq_true_iff

theorem bySession_trans (a b c : Record) (hab : bySession a b = true) (hbc : bySession b c = true) :
    bySession a c = true :=
  bySession_iff.2 (String.le_trans (bySession_iff.1 hab) (bySession_iff.1 hbc))

theorem bySession_total (a b : Record) : (bySession a b || bySession b a) = true := by
  rw [Bool.or_eq_true, bySession_iff, bySession_iff]
  exact String.le_total a.session b.session

/-- **Sorting by session** gives the records in whatever order they are listed. -/
theorem mergeSort_records {listed : List Record} (h : listed.Perm archive.records) :
    listed.mergeSort bySession = archive.records := by
  have hperm := (List.mergeSort_perm listed bySession).trans h
  refine List.Perm.eq_of_pairwise (fun a b ha hb hab hba => ?_)
    (List.pairwise_mergeSort bySession_trans bySession_total listed)
    (archive.ordered.imp fun hlt => bySession_iff.2 (Std.le_of_lt hlt)) hperm
  exact eq_of_session (hperm.mem_iff.1 ha) hb
    (String.le_antisymm (bySession_iff.1 hab) (bySession_iff.1 hba))

/-! ## Runs of appends -/

/-- The archive after a run of appends, each a session and its command. -/
def pushAll (archive : Archive) (appends : List (String × String)) : Archive :=
  appends.foldl (fun archive append => archive.push append.1 append.2) archive

/-- The appends of other sessions can be left out of a run on archives that agree on a session. -/
theorem AgreeOn.pushAll (h : AgreeOn session left right) (appends : List (String × String)) :
    AgreeOn session (left.pushAll appends)
      (right.pushAll (appends.filter (·.1 == session))) := by
  induction appends generalizing left right with
  | nil => exact h
  | cons append appends ih =>
    obtain ⟨other, command⟩ := append
    by_cases hsession : other = session
    · subst hsession
      rw [List.filter_cons_of_pos (by simp)]
      exact ih (h.own (some command))
    · rw [List.filter_cons_of_neg (by simpa using hsession)]
      exact ih (h.other hsession (some command))

/-- **The order of the sessions** among appends leaves no trace. -/
theorem pushAll_congr (archive : Archive) {one other : List (String × String)}
    (h : ∀ session, one.filter (·.1 == session) = other.filter (·.1 == session)) :
    archive.pushAll one = archive.pushAll other := by
  have hagree (session : String) := AgreeOn.pushAll (AgreeOn.mk (Eq.refl archive.window)
    (Eq.refl (archive.get? session)))
  refine ext_get? ?_ fun session => ?_
  · rw [(hagree "" one).window, (hagree "" other).window, h]
  · rw [(hagree session one).record, (hagree session other).record, h]

end HistoryExpansion.Archive
