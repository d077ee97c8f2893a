import HistoryExpansion.Record

/-!
# Archives

An archive keeps one record per session, each no longer than the archive's window. Its records
stand in the order of their session names, each session once, so an archive with given records is
one value and not many: nothing of the order in which sessions were first seen is left in it.
-/

namespace HistoryExpansion

/-- Puts a record among records ordered by session, in the place of any record of its session. -/
def placeRecord (record : Record) : List Record → List Record
  | [] => [record]
  | head :: rest =>
    if record.session < head.session then record :: head :: rest
    else if record.session = head.session then record :: rest
    else head :: placeRecord record rest

/-- Every record of the result was there before or is the one put in. -/
theorem eq_or_mem_of_mem_placeRecord {record other : Record} {records : List Record}
    (h : other ∈ placeRecord record records) : other = record ∨ other ∈ records := by
  induction records with
  | nil => simpa [placeRecord] using h
  | cons head rest ih =>
    unfold placeRecord at h
    split at h
    · simpa using h
    · split at h
      · rcases List.mem_cons.1 h with h | h
        · exact .inl h
        · exact .inr (List.mem_cons_of_mem _ h)
      · rcases List.mem_cons.1 h with h | h
        · exact .inr (h ▸ List.mem_cons_self)
        · exact (ih h).imp_right (List.mem_cons_of_mem _)

/-- Putting a record in keeps the order of the sessions. -/
theorem pairwise_placeRecord {record : Record} {records : List Record}
    (h : records.Pairwise fun a b => a.session < b.session) :
    (placeRecord record records).Pairwise fun a b => a.session < b.session := by
  induction records with
  | nil => simp [placeRecord]
  | cons head rest ih =>
    obtain ⟨hhead, hrest⟩ := List.pairwise_cons.1 h
    unfold placeRecord
    split
    · next hlt =>
      refine List.pairwise_cons.2 ⟨fun other hother => ?_, h⟩
      rcases List.mem_cons.1 hother with rfl | hother
      · exact hlt
      · exact String.lt_trans hlt (hhead other hother)
    · next hnlt =>
      split
      · next heq => exact List.pairwise_cons.2 ⟨fun other hother => heq ▸ hhead other hother, hrest⟩
      · next hne =>
        refine List.pairwise_cons.2 ⟨fun other hother => ?_, ih hrest⟩
        rcases eq_or_mem_of_mem_placeRecord hother with rfl | hother
        · have hle : head.session ≤ other.session := String.not_lt.1 hnlt
          exact Std.lt_of_le_of_ne hle (Ne.symm hne)
        · exact hhead other hother

/-- The records of all sessions, with the window that bounds each of them. -/
structure Archive where
  /-- The number of commands that a record may keep. -/
  window : Nat
  /-- The records in the order of their sessions. -/
  records : List Record
  /-- Each session has at most one record, and the sessions rise. -/
  ordered : records.Pairwise fun a b => a.session < b.session

namespace Archive

/-- The window of an archive when none is asked for. -/
def usualWindow : Nat := 500

/-- The archive without records. -/
def empty (window : Nat) : Archive :=
  ⟨window, [], List.Pairwise.nil⟩

/-- The record of a session. -/
def get? (archive : Archive) (session : String) : Option Record :=
  archive.records.find? (·.session == session)

/-- Puts a record in the place of any record of its session. -/
def put (archive : Archive) (record : Record) : Archive :=
  ⟨archive.window, placeRecord record archive.records, pairwise_placeRecord archive.ordered⟩

/-- Adds a command to the record of a session, which begins with its first command. -/
def push (archive : Archive) (session command : String) : Archive :=
  let record := (archive.get? session).getD ⟨session, []⟩
  archive.put (record.push archive.window command)

/-- An archive of given records alone, each cut to the window. Of two records of one session the
later one counts. -/
def restore (archive : Archive) (records : List Record) : Archive :=
  records.foldl (fun restored record => restored.put (record.trim archive.window))
    (empty archive.window)

/-- The number of commands kept for a session. -/
def length (archive : Archive) (session : String) : Nat :=
  ((archive.get? session).map Record.length).getD 0

/-- The number of sessions that have a record. -/
def sessionCount (archive : Archive) : Nat :=
  archive.records.length

/-- Whether no session has a record. -/
def isEmpty (archive : Archive) : Bool :=
  archive.sessionCount == 0

end Archive

end HistoryExpansion
