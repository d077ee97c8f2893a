import HistoryExpansion.Proofs.Archive.Windows
import HistoryExpansion.Proofs.HistoryFile.Grammar
import HistoryExpansion.Proofs.HistoryFile.Opening

/-!
# What a history file says is what is loaded

A file that holds a text opens exactly if the text is a history, and then a session has the newest
commands of the last record that names it: `openAt_iff_holds`. Whether it opens is left to the
grammar of the format; which of several records of a session counts, and how much of it, is left to
restoring.
-/

namespace HistoryExpansion.HistoryFile

/-- Of records that are restored the last one of a session counts. -/
theorem get?_restore_last {before behind : List Record} {record : Record}
    (h : ∀ later ∈ behind, later.session ≠ record.session) (archive : Archive) :
    (archive.restore (before ++ record :: behind)).get? record.session =
      some ⟨record.session, newest archive.window record.commands⟩ := by
  have hbehind : behind.filter (·.session == record.session) = [] :=
    List.filter_eq_nil_iff.2 fun later hlater => by simpa using h later hlater
  rw [Archive.get?_restore_records, List.filter_append, List.filter_cons_of_pos (by simp), hbehind,
    List.getLast?_concat, Option.map_some]

/-- A session that no record names has none. -/
theorem get?_restore_of_forall_ne {records : List Record} {session : String}
    (h : ∀ record ∈ records, record.session ≠ session) (archive : Archive) :
    (archive.restore records).get? session = none := by
  have hnone : records.filter (·.session == session) = [] :=
    List.filter_eq_nil_iff.2 fun record hrecord => by simpa using h record hrecord
  rw [Archive.get?_restore_records, hnone]
  rfl

/-- **A history file opens exactly if it is in the format, and says what is loaded.** Let a file
hold a text. It opens exactly if the text is a history. For the records of the history, a session
that none of them names has no record, and any other one has the newest commands of the last record
that names it, as many as the window admits. A text that is no history gives a JSON fault. -/
theorem openAt_iff_holds {disk : Disk} {path : String} {text : List Char}
    (hread : disk.read path = .ok (Utf8.encode text)) (window : Nat) :
    ((∃ opened, openAt disk path window = .ok opened) ↔
      ∃ records, HistoryFormat.Holds text records) ∧
    (∀ records, HistoryFormat.Holds text records →
      ∃ opened, openAt disk path window = .ok opened ∧ ∀ session,
        ((∀ record ∈ records, record.session ≠ session) →
          opened.archive.get? session = none) ∧
        ∀ before record behind, records = before ++ record :: behind →
          record.session = session → (∀ later ∈ behind, later.session ≠ session) →
          ∃ commands, opened.archive.get? session = some ⟨session, commands⟩ ∧
            commands <:+ record.commands ∧
            commands.length = min record.commands.length window) ∧
    ((¬∃ records, HistoryFormat.Holds text records) →
      ∃ fault, openAt disk path window = .error (.json fault)) := by
  have hopen := openAt_encode hread window
  simp only [← HistoryFormat.parse_eq_ok_iff]
  cases hparse : HistoryFormat.parse text with
  | error fault =>
    rw [hparse] at hopen
    refine ⟨⟨?_, ?_⟩, ?_, fun _ => ⟨fault, hopen⟩⟩
    · rintro ⟨opened, h⟩
      cases hopen.symm.trans h
    · rintro ⟨records, h⟩
      cases h
    · intro records h
      cases h
  | ok found =>
    rw [hparse] at hopen
    refine ⟨⟨fun _ => ⟨found, rfl⟩, fun _ => ⟨_, hopen⟩⟩, ?_, fun h => absurd ⟨found, rfl⟩ h⟩
    intro records h
    cases h
    refine ⟨_, hopen, fun session => ⟨fun h => get?_restore_of_forall_ne h _, ?_⟩⟩
    rintro before record behind rfl rfl hlater
    exact ⟨_, get?_restore_last hlater _, newest_isSuffix window record.commands⟩

/-- Two records of one session with one of another between them, in both forms, with the keys in
another order, one of them escaped, and a further key whose value has half of a surrogate pair in
it; and a record with the key `session` twice, once escaped. -/
theorem openAt_iff_holds_odd :
    let text := " [ \x7b\"commands\" : [\"\\u00e9\", \"b\"], \"x\":\x7b\"\\ud800\":[-0.5e+3]\x7d,
      \"\\u0073ession\":\"s\"\x7d,[\"t\",[]], [\"s\",[\"c\",\"d\",\"e\"]] ]\t".toList
    let twice := "[\x7b\"session\":\"s\",\"commands\":[],\"\\u0073ession\":\"s\"\x7d]".toList
    let disk (text : List Char) : Disk := { entries := [(["h"], .file (Utf8.encode text))] }
    (disk text).read "h" = .ok (Utf8.encode text) ∧
      HistoryFormat.Holds text [⟨"s", ["é", "b"]⟩, ⟨"t", []⟩, ⟨"s", ["c", "d", "e"]⟩] ∧
      (∃ opened, openAt (disk text) "h" 2 = .ok opened ∧
        opened.archive.get? "s" = some ⟨"s", ["d", "e"]⟩ ∧ opened.archive.get? "u" = none) ∧
      (disk twice).read "h" = .ok (Utf8.encode twice) ∧
      (¬∃ records, HistoryFormat.Holds twice records) ∧
      ∃ fault, openAt (disk twice) "h" 2 = .error (.json fault) := by
  intro text twice disk
  have hread (text : List Char) : (disk text).read "h" = .ok (Utf8.encode text) := by rfl
  have hholds : HistoryFormat.Holds text
      [⟨"s", ["é", "b"]⟩, ⟨"t", []⟩, ⟨"s", ["c", "d", "e"]⟩] := by decide +kernel
  have htwice : ¬∃ records, HistoryFormat.Holds twice records := by
    rintro ⟨records, h⟩
    have hnone : (HistoryFormat.parse twice).toOption = none := by decide +kernel
    cases hnone.symm.trans (HistoryFormat.toOption_parse_eq_some_iff.2 h)
  obtain ⟨opened, hopened, hrecords⟩ := (openAt_iff_holds (hread text) 2).2.1 _ hholds
  obtain ⟨commands, hget, hsuffix, hlength⟩ := (hrecords "s").2 [⟨"s", ["é", "b"]⟩, ⟨"t", []⟩]
    ⟨"s", ["c", "d", "e"]⟩ [] rfl rfl (by decide)
  have hcommands : commands = ["d", "e"] := by
    have hdrop := List.suffix_iff_eq_drop.1 hsuffix
    rw [hlength] at hdrop
    exact hdrop
  subst hcommands
  exact ⟨hread text, hholds, ⟨opened, hopened, hget, (hrecords "u").1 (by decide)⟩, hread twice,
    htwice, (openAt_iff_holds (hread twice) 2).2.2 htwice⟩

end HistoryExpansion.HistoryFile
