import HistoryExpansion.HistoryFile
import HistoryExpansion.Proofs.Archive
import HistoryExpansion.Proofs.HistoryFile.Format
import HistoryExpansion.Proofs.Text.Utf8

/-!
# Opening what was written

`recordsAt` is what a history file says before any window is applied to it, and `openAt_eq_restore`
takes opening apart into reading the records and restoring them. The octets of an archive are read
as its records, so opening a file that an archive was written to, with whatever window, gives every
session the newest commands of its record and gives no session a record that had none:
`openAt_content`.
-/

namespace HistoryExpansion.HistoryFile

/-- The records that octets hold. -/
def recordsOf (octets : Octets) : Except Failure (List Record) :=
  octets.text.bind fun text => (HistoryFormat.parse text).mapError .json

/-- The records that the file at a path holds; where no file is, there are none. -/
def recordsAt (disk : Disk) (path : String) : Except Failure (List Record) :=
  match disk.read path with
  | .error .notFound => .ok []
  | .error error => .error (.ofDisk error)
  | .ok octets => recordsOf octets

theorem load_eq_restore (window : Nat) (octets : Octets) :
    load window octets = (recordsOf octets).map (Archive.empty window).restore := by
  unfold load recordsOf
  cases octets.text with
  | error failure => rfl
  | ok text =>
    simp only [Except.bind]
    cases HistoryFormat.parse text <;> rfl

/-- **Opening** is reading the records and restoring them. -/
theorem openAt_eq_restore (disk : Disk) (path : String) (window : Nat) :
    openAt disk path window = (recordsAt disk path).map fun records =>
      ⟨path, (Archive.empty window).restore records⟩ := by
  unfold openAt recordsAt
  rcases disk.read path with error | octets
  · cases error <;> rfl
  · simp only [load_eq_restore]
    cases recordsOf octets <;> rfl

/-- Opening looks at nothing but the file. -/
theorem openAt_congr {disk other : Disk} {path : String} (h : disk.read path = other.read path)
    (window : Nat) : openAt disk path window = openAt other path window := by
  rw [openAt, openAt, h]

/-- Opening a file fails as reading its records does. -/
theorem openAt_of_recordsOf {disk : Disk} {path : String} {octets : Octets} {failure : Failure}
    (hread : disk.read path = .ok octets) (h : recordsOf octets = .error failure)
    (window : Nat) : openAt disk path window = .error failure := by
  rw [openAt_eq_restore, recordsAt, hread]
  show (recordsOf octets).map _ = _
  rw [h]
  rfl

/-- The records of a text are read off the text. -/
theorem recordsOf_encode (text : List Char) :
    recordsOf (Utf8.encode text) = (HistoryFormat.parse text).mapError .json := by
  unfold recordsOf Octets.text
  rw [Utf8.decode_encode]
  rfl

/-- Records are read as they were rendered, also if they are no archive's. -/
theorem recordsOf_render (records : List Record) :
    recordsOf (Utf8.encode (HistoryFormat.render records)) = .ok records := by
  rw [recordsOf_encode, HistoryFormat.parse_render]
  rfl

/-- Opening a text is reading its records and restoring them. -/
theorem openAt_encode {disk : Disk} {path : String} {text : List Char}
    (h : disk.read path = .ok (Utf8.encode text)) (window : Nat) :
    openAt disk path window = ((HistoryFormat.parse text).mapError .json).map fun records =>
      ⟨path, (Archive.empty window).restore records⟩ := by
  rw [openAt_eq_restore, recordsAt, h]
  show (recordsOf (Utf8.encode text)).map _ = _
  rw [recordsOf_encode]

/-- Opening a file that an archive was written to restores its records. -/
theorem openAt_of_read {disk : Disk} {path : String} {archive : Archive}
    (h : disk.read path = .ok (content archive)) (window : Nat) :
    openAt disk path window = .ok ⟨path, (Archive.empty window).restore archive.records⟩ := by
  rw [openAt_encode h, HistoryFormat.parse_render]
  rfl

/-- **Decoding undoes encoding.** Whatever its window, the file that an archive was written to
opens. It has records for the archive's sessions and for no others, each with the newest commands
that the window admits. -/
theorem openAt_content (file : HistoryFile) {disk : Disk} {path : String}
    (h : disk.read path = .ok (content file.archive)) (window : Nat) :
    ∃ opened, openAt disk path window = .ok opened ∧
      ∀ session,
        (opened.archive.get? session = none ↔ file.archive.get? session = none) ∧
        ∀ record, file.archive.get? session = some record →
          ∃ commands, opened.archive.get? session = some ⟨session, commands⟩ ∧
            commands <:+ record.commands ∧
            commands.length = min record.commands.length window := by
  refine ⟨_, openAt_of_read h window, fun session => ?_⟩
  have hget := Archive.get?_restore (Archive.empty window) file.archive session
  refine ⟨?_, fun record hrecord => ?_⟩
  · rw [hget, Option.map_eq_none_iff]
  · refine ⟨_, ?_, newest_isSuffix window record.commands⟩
    rw [hget, hrecord, ← Archive.session_of_get? hrecord]
    rfl

/-- Odd characters, an empty record and a smaller window. -/
theorem openAt_content_odd :
    let archive := (((Archive.empty 2).push "\"\\\x00" "echo \u2028𝄞").push "\"\\\x00" "\t").put
      ⟨"", []⟩
    let disk : Disk := { entries := [(["h"], .file (content archive))] }
    disk.read "h" = .ok (content archive) ∧
      ∃ opened, openAt disk "h" 1 = .ok opened ∧
        ∀ session,
          (opened.archive.get? session = none ↔ archive.get? session = none) ∧
          ∀ record, archive.get? session = some record →
            ∃ commands, opened.archive.get? session = some ⟨session, commands⟩ ∧
              commands <:+ record.commands ∧
              commands.length = min record.commands.length 1 := by
  intro archive disk
  have hread : disk.read "h" = .ok (content archive) := by rfl
  exact ⟨hread, openAt_content ⟨"h", archive⟩ hread 1⟩

end HistoryExpansion.HistoryFile
