import HistoryExpansion.Backend
import HistoryExpansion.Proofs.Archive.Order
import HistoryExpansion.Proofs.Text.Utf8Order
import Mathlib.Data.List.DropRight
import Mathlib.Data.Set.Card

/-!
# An archive is a map of windows

Whatever is pushed, appended and restored, and in whatever order, a session's record is read off two
things: the last record that the most recent restore had for it (`restoredFor?`), and the commands
that were added for it since (`addedFor`). It holds the newest of these, as many as the window
allows, and it is absent if there are none of either kind: `carryAll_windows`. The invariant behind
it is `get?_carryAll`, by induction on the changes from the last one back: what a change asks of a
session's record is said once (`record?_concat`) and what it does to the archive once
(`get?_carry`).
-/

namespace HistoryExpansion

namespace Archive

/-! ## Changes -/

/-- A change to the records of an archive. -/
inductive Change where
  /-- A command is pushed. -/
  | push (session command : String)
  /-- A command is appended by the service that an engine uses. -/
  | append (session command : String)
  /-- Records take the place of all that there were. -/
  | restore (records : List Record)
  deriving DecidableEq, Repr

namespace Change

/-- The records that a change puts in the place of all others. -/
def restored? : Change → Option (List Record)
  | push .. | append .. => none
  | restore records => some records

/-- The command that a change adds for a session. -/
def added? (session : String) : Change → Option String
  | push other command | append other command => if other = session then some command else none
  | restore _ => none

/-- Carries a change out on an archive in memory. -/
def carry (answer : (session command : String) → Except Failure Output) (archive : Archive) :
    Change → Archive
  | push session command => archive.push session command
  | append session command => ((Backend.inMemory answer).append session command archive).2
  | restore records => archive.restore records

end Change

/-- Carries changes out one after the other. -/
def carryAll (answer : (session command : String) → Except Failure Output) (archive : Archive)
    (changes : List Change) : Archive :=
  changes.foldl (Change.carry answer) archive

/-! ## What changes ask of a record -/

/-- The records of the most recent restore. -/
def lastRestored (changes : List Change) : List Record :=
  (changes.reverse.findSome? Change.restored?).getD []

/-- The changes since the most recent restore. -/
def sinceRestored (changes : List Change) : List Change :=
  changes.rtakeWhile fun change => change.restored?.isNone

/-- The commands of the last record that the most recent restore had for a session. -/
def restoredFor? (changes : List Change) (session : String) : Option (List String) :=
  ((lastRestored changes).filter (·.session == session)).getLast?.map Record.commands

/-- The commands that were added for a session since the most recent restore. -/
def addedFor (changes : List Change) (session : String) : List String :=
  (sinceRestored changes).filterMap (Change.added? session)

/-- All commands that a session's record is cut from. -/
def allFor (changes : List Change) (session : String) : List String :=
  (restoredFor? changes session).getD [] ++ addedFor changes session

/-- The record that changes ask for. -/
def record? (window : Nat) (changes : List Change) (session : String) : Option Record :=
  if restoredFor? changes session = none ∧ addedFor changes session = [] then none
  else some ⟨session, newest window (allFor changes session)⟩

variable {window : Nat} {changes : List Change} {change : Change} {session : String}

theorem getD_record? :
    (record? window changes session).getD ⟨session, []⟩ =
      ⟨session, newest window (allFor changes session)⟩ := by
  unfold record?
  split
  · next h => rw [allFor, h.1, h.2, Option.getD_none, Option.getD_none, List.append_nil, newest,
      List.drop_nil]
  · rfl

section

variable (hchange : change.restored? = none)

include hchange

theorem restoredFor?_concat :
    restoredFor? (changes ++ [change]) session = restoredFor? changes session := by
  unfold restoredFor? lastRestored
  rw [List.reverse_append, List.reverse_singleton, List.singleton_append, List.findSome?_cons,
    hchange]

theorem addedFor_concat :
    addedFor (changes ++ [change]) session =
      addedFor changes session ++ (change.added? session).toList := by
  have hsince : sinceRestored (changes ++ [change]) = sinceRestored changes ++ [change] :=
    List.rtakeWhile_concat_pos _ _ _ (by rw [hchange, Option.isNone_none])
  rw [addedFor, hsince, List.filterMap_append]
  cases h : change.added? session with
  | none =>
    rw [List.filterMap_cons_none h, List.filterMap_nil]
    rfl
  | some command =>
    rw [List.filterMap_cons_some h, List.filterMap_nil]
    rfl

/-- What one more command asks of a session's record. -/
theorem record?_concat :
    record? window (changes ++ [change]) session =
      match change.added? session with
      | none => record? window changes session
      | some command =>
        some (((record? window changes session).getD ⟨session, []⟩).push window command) := by
  cases h : change.added? session with
  | none =>
    unfold record? allFor
    rw [restoredFor?_concat hchange, addedFor_concat hchange, h, Option.toList_none,
      List.append_nil]
  | some command =>
    have hadded : addedFor (changes ++ [change]) session =
        addedFor changes session ++ [command] := by
      rw [addedFor_concat hchange, h, Option.toList_some]
    have hne : addedFor changes session ++ [command] ≠ [] :=
      List.append_ne_nil_of_right_ne_nil _ (List.cons_ne_nil _ _)
    simp only [getD_record?, Record.push, newest_newest_append]
    rw [record?, hadded, if_neg fun habsent => hne habsent.2, allFor, hadded,
      restoredFor?_concat hchange, allFor, List.append_assoc]

end

/-- A restore asks for its own records alone. -/
theorem record?_restore (records : List Record) :
    record? window (changes ++ [.restore records]) session =
      (records.filter (·.session == session)).getLast?.map fun record =>
        ⟨session, newest window record.commands⟩ := by
  have hrestored : restoredFor? (changes ++ [.restore records]) session =
      (records.filter (·.session == session)).getLast?.map Record.commands := by
    unfold restoredFor? lastRestored
    rw [List.reverse_append, List.reverse_singleton, List.singleton_append, List.findSome?_cons]
    rfl
  have hadded : addedFor (changes ++ [.restore records]) session = [] := by
    have hsince : sinceRestored (changes ++ [.restore records]) = [] :=
      List.rtakeWhile_concat_neg _ _ _ Bool.false_ne_true
    rw [addedFor, hsince, List.filterMap_nil]
  unfold record? allFor
  rw [hrestored, hadded]
  cases (records.filter (·.session == session)).getLast? with
  | none => rfl
  | some record =>
    simp only [Option.map_some, reduceCtorEq, false_and, ↓reduceIte, Option.getD_some,
      List.append_nil]

/-! ## What changes do to an archive -/

/-- Of the records that are put one after the other the last one of a session is found. -/
theorem get?_foldl_put (archive : Archive) (records : List Record) :
    (records.foldl (fun restored record => restored.put (record.trim window)) archive).get?
        session =
      ((records.filter (·.session == session)).getLast?.map (Record.trim window)).or
        (archive.get? session) := by
  induction records generalizing archive with
  | nil => rfl
  | cons record records ih =>
    rw [List.foldl_cons, ih, get?_put, Record.session_trim]
    by_cases h : record.session = session
    · rw [if_pos h, List.filter_cons_of_pos (by simpa using h), List.getLast?_cons]
      cases (records.filter (·.session == session)).getLast? <;> rfl
    · rw [if_neg h, List.filter_cons_of_neg (by simpa using h)]

theorem get?_restore_records (archive : Archive) (records : List Record) :
    (archive.restore records).get? session =
      (records.filter (·.session == session)).getLast?.map fun record =>
        ⟨session, newest archive.window record.commands⟩ := by
  rw [restore, get?_foldl_put, get?_empty, Option.or_none]
  cases h : (records.filter (·.session == session)).getLast? with
  | none => rfl
  | some record =>
    have hsession : record.session = session := by
      have hmem := List.mem_of_getLast? h
      simpa using (List.mem_filter.1 hmem).2
    rw [Option.map_some, Option.map_some, Record.trim, hsession]

section

variable (answer : (session command : String) → Except Failure Output)

theorem window_carry (archive : Archive) (change : Change) :
    (change.carry answer archive).window = archive.window := by
  cases change with
  | push other command => exact window_push archive other command
  | append other command => exact window_push archive other command
  | restore records => exact window_restore archive records

/-- A command that is added to a session's record, or to another one. -/
theorem get?_push (archive : Archive) (other command : String) :
    (archive.push other command).get? session =
      match (if other = session then some command else none) with
      | none => archive.get? session
      | some command =>
        some (((archive.get? session).getD ⟨session, []⟩).push archive.window command) := by
  by_cases h : other = session
  · subst h
    rw [if_pos rfl, get?_push_self]
  · rw [if_neg h, get?_push_of_ne h]

/-- What one change leaves of a session's record. -/
theorem get?_carry {archive : Archive} (hwindow : archive.window = window)
    (h : ∀ session, archive.get? session = record? window changes session)
    (change : Change) (session : String) :
    (change.carry answer archive).get? session =
      record? window (changes ++ [change]) session := by
  subst hwindow
  cases change with
  | push other command =>
    rw [record?_concat rfl, ← h]
    exact get?_push archive other command
  | append other command =>
    rw [record?_concat rfl, ← h]
    exact get?_push archive other command
  | restore records =>
    rw [record?_restore]
    exact get?_restore_records archive records

/-- Every session has the record that the changes ask for, under the window of the start. -/
theorem get?_carryAll (window : Nat) (changes : List Change) :
    ((empty window).carryAll answer changes).window = window ∧
      ∀ session, ((empty window).carryAll answer changes).get? session =
        record? window changes session := by
  induction changes using List.reverseRecOn with
  | nil => exact ⟨rfl, fun _ => rfl⟩
  | append_singleton changes change ih =>
    obtain ⟨hwindow, hget⟩ := ih
    rw [carryAll, List.foldl_concat]
    exact ⟨(window_carry answer _ change).trans hwindow, get?_carry answer hwindow hget change⟩

/-! ## All records -/

/-- There are as many records as sessions that have one. -/
theorem sessionCount_eq_ncard (archive : Archive) :
    archive.sessionCount = {session | (archive.get? session).isSome}.ncard := by
  have hnodup : (archive.records.map Record.session).Nodup := by
    rw [List.nodup_iff_pairwise_ne, List.pairwise_map]
    exact archive.ordered.imp fun hlt => Std.ne_of_lt hlt
  have hsessions : {session | (archive.get? session).isSome} =
      ((archive.records.map Record.session).toFinset : Set String) := by
    ext session
    rw [Finset.mem_coe, List.mem_toFinset, List.mem_map, Set.mem_ofPred_eq,
      Option.isSome_iff_exists]
    exact exists_congr fun record => get?_eq_some_iff
  rw [hsessions, Set.ncard_coe_finset, List.toFinset_card_of_nodup hnodup, List.length_map]
  rfl

/-- **An archive is a map of windows.** After any changes, and under any window, a session has no
record exactly if the most recent restore had none for it and nothing was added for it since;
otherwise its record is an end of the commands that were restored and then added, as long as the
window allows. The lengths, the number of sessions and the list of all records are those of
these records, each session once and in the order of the octets of the sessions. -/
theorem carryAll_windows (window : Nat) (changes : List Change) :
    let archive := (empty window).carryAll answer changes
    (∀ session,
      (archive.get? session = none ↔
        restoredFor? changes session = none ∧ addedFor changes session = []) ∧
      (¬(restoredFor? changes session = none ∧ addedFor changes session = []) →
        ∃ commands, archive.get? session = some ⟨session, commands⟩ ∧
          commands <:+ allFor changes session ∧
          commands.length = min (allFor changes session).length window) ∧
      (Backend.inMemory answer).fetch session archive =
        (.ok (archive.get? session), archive) ∧
      archive.length session = min (allFor changes session).length window) ∧
      archive.sessionCount = {session | (archive.get? session).isSome}.ncard ∧
      (archive.isEmpty = true ↔ archive.sessionCount = 0) ∧
      (∀ record, record ∈ archive.records ↔ archive.get? record.session = some record) ∧
      archive.records.Pairwise fun a b => Utf8.ofString a.session < Utf8.ofString b.session := by
  intro archive
  obtain ⟨-, hget⟩ := get?_carryAll answer window changes
  have hlength (session : String) :
      archive.length session = min (allFor changes session).length window := by
    have hcommands : archive.length session =
        ((archive.get? session).getD ⟨session, []⟩).commands.length := by
      unfold length
      cases archive.get? session <;> rfl
    rw [hcommands, hget, getD_record?, length_newest, Nat.min_comm]
  refine ⟨fun session => ?_, sessionCount_eq_ncard archive, beq_iff_eq, fun record => ?_, ?_⟩
  · obtain ⟨hnone, hcut⟩ := exists_cut_iff (hget session)
    exact ⟨hnone, hcut, rfl, hlength session⟩
  · rw [get?_eq_some_iff, and_iff_left rfl]
  · exact archive.ordered.imp Utf8.ofString_lt_iff.2

end

/-- Two records of one session in a restore, the later of them longer than the window; a session
that the restore takes away and that gets a command afterwards; and a window for nothing. -/
example :
    let changes : List Change := [.push "s" "old", .push "t" "gone",
      .restore [⟨"s", ["a"]⟩, ⟨"s", ["b", "c", "d"]⟩], .append "t" "new", .push "s" "e"]
    let archive (window : Nat) := (empty window).carryAll (fun _ _ => .ok ⟨"", "", 0⟩) changes
    (archive 2).records = [⟨"s", ["d", "e"]⟩, ⟨"t", ["new"]⟩] ∧ (archive 2).get? "u" = none ∧
      (archive 0).records = [⟨"s", []⟩, ⟨"t", []⟩] := by
  decide +kernel

end Archive

end HistoryExpansion
