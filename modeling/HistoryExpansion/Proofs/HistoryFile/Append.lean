import HistoryExpansion.Proofs.Archive
import HistoryExpansion.Proofs.HistoryFile.Rewrite
import HistoryExpansion.Store

/-!
# All or nothing

An append to a history file leaves the file with all records that are in memory, or as it was, and
touches nothing else: no place but that of the file and that of the temporary file is changed, apart
from the missing directories above them (`append_atomic`). This holds on every sound disk, wherever
the disk refuses, if what stands at the temporary path is not a link or a device; a link there is
written through (`append_atomic_link`). The memory takes every command, so it is at all times what
an archive without a file would be.
-/

namespace HistoryExpansion

open HistoryExpansion.Disk (Keeps Sound)

/-! ## The newest command -/

theorem Record.last?_push {window : Nat} (h : 0 < window) (command : String) (record : Record) :
    (record.push window command).last? = some command := by
  have hkept : (record.commands ++ [command]).length - window ≤ record.commands.length := by
    rw [List.length_append, List.length_singleton]
    omega
  rw [last?, push, newest, List.drop_append_of_le_length hkept, List.getLast?_concat]

namespace Store

theorem archive_append (store : Store) (session command : String) (disk : Disk) :
    (store.append session command disk).2.1.archive = store.archive.push session command := by
  cases store <;> rfl

/-- The store after a run of appends, each on the disk that it meets, whether it succeeds or not. -/
def afterAll (store : Store) (appends : List (String × String × Disk)) : Store :=
  appends.foldl (fun store append => (store.append append.1 append.2.1 append.2.2).2.1) store

/-- **A store remembers all appends**, whatever becomes of its file. -/
theorem archive_afterAll (store : Store) (appends : List (String × String × Disk)) :
    (store.afterAll appends).archive =
      appends.foldl (fun archive append => archive.push append.1 append.2.1) store.archive := by
  induction appends generalizing store with
  | nil => rfl
  | cons append appends ih =>
    rw [afterAll, List.foldl_cons, List.foldl_cons, ← archive_append]
    exact ih _

end Store

namespace HistoryFile

variable {path : String} {octets : Octets} {disk made written left : Disk}
  {target temporary reached place : Location} {moved : Entry}

theorem eq_ok_iff_toOption {ε α : Type} {result : Except ε α} {value : α} :
    result = .ok value ↔ result.toOption = some value := by
  cases result with
  | error error => exact ⟨nofun, nofun⟩
  | ok found => exact ⟨congrArg Except.toOption, fun h => congrArg Except.ok (Option.some.inj h)⟩

/-! ## Rewrites with a plain temporary file -/

/-- What stands at the temporary path, if anything does, is neither a link nor a device. -/
def PlainTemporary (path : String) (disk : Disk) : Prop :=
  ∀ entry, disk.findItself (temporaryPath path) = .ok entry →
    (∀ text, entry ≠ .link text) ∧ ∀ device, entry ≠ .device device

theorem PlainTemporary.of_file (h : disk.findItself (temporaryPath path) = .ok (.file octets)) :
    PlainTemporary path disk := by
  intro entry hentry
  obtain rfl := Except.ok.inj (h.symm.trans hentry)
  exact ⟨nofun, nofun⟩

/-- What a plain temporary path names is where it leads. -/
theorem PlainTemporary.locateItself (h : PlainTemporary path disk)
    (hreached : disk.locate (temporaryPath path) = .ok reached) :
    disk.locateItself (temporaryPath path) = .ok reached := by
  obtain ⟨place, hplace, hthrough⟩ := Disk.exists_itself_of_locate hreached
  obtain rfl := hthrough fun text hentry =>
    (h _ (Disk.findItself_eq_ok_iff.2 ⟨place, hplace, hentry⟩)).1 text rfl
  exact hplace

theorem PlainTemporary.ne_device (h : PlainTemporary path disk)
    (hplace : disk.locateItself (temporaryPath path) = .ok place) (device : Device) :
    disk.entry? place ≠ some (.device device) := fun hentry =>
  (h _ (Disk.findItself_eq_ok_iff.2 ⟨place, hplace, hentry⟩)).2 device rfl

theorem PlainTemporary.ne_link (h : PlainTemporary path disk)
    (hplace : disk.locateItself (temporaryPath path) = .ok place) (text : String) :
    disk.entry? place ≠ some (.link text) := fun hentry =>
  (h _ (Disk.findItself_eq_ok_iff.2 ⟨place, hplace, hentry⟩)).1 text rfl

namespace Rewritten

variable (h : Rewritten path octets disk written left target temporary reached moved)
  (hplain : PlainTemporary path disk)

include h hplain

/-- A plain temporary file is moved as it was written. -/
theorem entry?_eq (place : Location) :
    left.entry? place = if place = target then some (.file octets)
      else if place = temporary then none else disk.entry? place := by
  obtain rfl : reached = temporary :=
    Except.ok.inj ((hplain.locateItself h.reached_eq).symm.trans h.temporary_eq)
  have hwritten : written = disk.fill reached octets := by
    rcases h.filled with ⟨⟨device, hdevice⟩, -⟩ | ⟨-, hfilled⟩
    · exact absurd hdevice (hplain.ne_device h.temporary_eq device)
    · exact hfilled
  have hroot := Disk.ne_nil_of_not_directory h.reached_file
  have hmoved : moved = .file octets := by
    have hentry := h.moved_eq
    rw [hwritten, Disk.entry?_fill hroot, if_pos rfl] at hentry
    exact (Option.some.inj hentry).symm
  rw [h.entries, hmoved]
  split
  · rfl
  · split
    · rfl
    · next hne => rw [hwritten, Disk.entry?_fill hroot, if_neg hne]

/-- The roads are as they were, unless the file takes the place of a link. -/
theorem keeps (hlink : ∀ text, disk.findItself path ≠ .ok (.link text)) : Keeps disk left := by
  have hkept : ∀ place entry, place ≠ target → place ≠ temporary →
      disk.entry? place = some entry → left.entry? place = some entry := by
    intro place entry htarget htemporary hentry
    rw [h.entry?_eq hplain, if_neg htarget, if_neg htemporary, hentry]
  refine ⟨h.here, fun place hplace => hkept place _ ?_ ?_ hplace,
    fun place text hplace => hkept place _ ?_ ?_ hplace⟩
  · rintro rfl
    exact h.target_file hplace
  · rintro rfl
    exact h.temporary_file hplace
  · rintro rfl
    exact hlink text (Disk.findItself_eq_ok_iff.2 ⟨place, h.target_eq, hplace⟩)
  · rintro rfl
    exact hplain.ne_link h.temporary_eq text hplace

theorem findItself (hlink : ∀ text, disk.findItself path ≠ .ok (.link text)) :
    left.findItself path = .ok (.file octets) ∧
      left.findItself (temporaryPath path) = .error .notFound := by
  have hkeeps := h.keeps hplain hlink
  refine ⟨Disk.findItself_eq_ok_iff.2 ⟨target, Disk.locateParts_carry hkeeps h.target_eq, ?_⟩, ?_⟩
  · rw [h.entry?_eq hplain, if_pos rfl]
  · have htemporary : left.locateItself (temporaryPath path) = .ok temporary :=
      Disk.locateParts_carry hkeeps h.temporary_eq
    have hgone : left.entry? temporary = none := by
      rw [h.entry?_eq hplain, if_neg h.apart, if_pos rfl]
    simp only [Disk.findItself, htemporary, hgone]

end Rewritten

/-! ## Appends -/

/-- A place has what it had, or is that of a missing directory above a path. -/
def Untouched (path : String) (disk left : Disk) (place : Location) : Prop :=
  left.entry? place = disk.entry? place ∨
    disk.entry? place = none ∧ left.entry? place = some .directory ∧
      Above path (prepared path disk) place

theorem untouched_of_prepared
    (h : left.entry? place = Disk.entry? (prepared path disk) place) :
    Untouched path disk left place := by
  rw [Untouched, h]
  exact prepared_cases path disk place

/-- What an append leaves that has written its file. -/
structure Saved (path : String) (octets : Octets) (disk left : Disk) : Prop where
  /-- The file stands at the place that the path names once the directories above it are made, the
  temporary file is gone, and nothing else is touched. -/
  places : ∃ target temporary, (prepared path disk).locateItself path = .ok target ∧
    (prepared path disk).locateItself (temporaryPath path) = .ok temporary ∧
    left.entry? target = some (.file octets) ∧ left.entry? temporary = none ∧
    ∀ place, place ≠ target → place ≠ temporary → Untouched path disk left place
  /-- The file is found at its path, unless there is a link that it takes the place of. -/
  found : (∀ text, (prepared path disk).findItself path ≠ .ok (.link text)) →
    left.read path = .ok octets ∧ left.findItself (temporaryPath path) = .error .notFound

/-- What an append leaves that has failed to write its file. -/
structure Unsaved (path : String) (disk left : Disk) : Prop where
  /-- Nothing is touched but the temporary file. -/
  places : ∀ place, (prepared path disk).locateItself (temporaryPath path) ≠ .ok place →
    Untouched path disk left place
  /-- The path names what it did. -/
  found : ∀ entry, entry ≠ .directory → disk.findItself path = .ok entry →
    left.findItself path = .ok entry
  /-- What is read at the path is what it was, unless there is a link to the temporary file. -/
  read : ∀ octets, disk.read path = .ok octets → left.read path = .ok octets ∨
    (∃ text, disk.findItself path = .ok (.link text)) ∧
      ∃ temporary, (prepared path disk).locateItself (temporaryPath path) = .ok temporary ∧
        disk.locate path = .ok temporary

/-- A rewrite that goes through ends with the file in its place and the temporary file gone, if
neither of the paths has a link in the way and the temporary path no device. -/
theorem findItself_of_persist {archive : Archive} (hsound : disk.Sound)
    (hplain : PlainTemporary path (prepared path disk))
    (hlink : ∀ text, (prepared path disk).findItself path ≠ .ok (.link text))
    (h : persist ⟨path, archive⟩ disk = (.ok (), left)) :
    left.findItself path = .ok (.file (content archive)) ∧
      left.findItself (temporaryPath path) = .error .notFound := by
  obtain ⟨written, target, temporary, reached, moved, -, hrewritten⟩ := persist_ok hsound h
  exact hrewritten.findItself hplain hlink

theorem saved_of_persist {archive : Archive} (hsound : disk.Sound)
    (hplain : PlainTemporary path (prepared path disk))
    (h : persist ⟨path, archive⟩ disk = (.ok (), left)) :
    Saved path (content archive) disk left := by
  obtain ⟨written, target, temporary, reached, moved, -, hrewritten⟩ := persist_ok hsound h
  have hentries := hrewritten.entry?_eq hplain
  refine ⟨⟨target, temporary, hrewritten.target_eq, hrewritten.temporary_eq, ?_, ?_,
    fun place htarget htemporary => untouched_of_prepared ?_⟩, fun hlink => ?_⟩
  · rw [hentries, if_pos rfl]
  · rw [hentries, if_neg hrewritten.apart, if_pos rfl]
  · rw [hentries, if_neg htarget, if_neg htemporary]
  · obtain ⟨hfile, hgone⟩ := findItself_of_persist hsound hplain hlink h
    exact ⟨Disk.read_of_findItself hfile rfl, hgone⟩

/-- A rewrite that fails has changed no place but that of the temporary file. -/
theorem frame_of_persist {archive : Archive} {error : DiskError} (hsound : disk.Sound)
    (hplain : PlainTemporary path (prepared path disk))
    (h : persist ⟨path, archive⟩ disk = (.error error, left)) :
    Keeps disk left ∧ ∀ place,
      Disk.locateItself (prepared path disk) (temporaryPath path) ≠ .ok place →
      left.entry? place = Disk.entry? (prepared path disk) place := by
  have hkeeps := keeps_prepared path disk
  rcases persist_error h with rfl | ⟨reached, octets, hreached, hfile, rfl⟩
  · exact ⟨hkeeps, fun _ _ => rfl⟩
  · refine ⟨hkeeps.trans (write_keeps (sound_prepared hsound path) hreached hfile octets).1,
      fun place hplace => ?_⟩
    rw [Disk.entry?_fill (Disk.ne_nil_of_not_directory hfile), if_neg]
    rintro rfl
    exact hplace (hplain.locateItself hreached)

/-- What the path names, if it is there and no directory, is not the temporary file. -/
theorem temporary_ne_of_entry {entry : Entry} (hsound : disk.Sound) (hfile : entry ≠ .directory)
    (hplace : disk.locateItself path = .ok place) (hentry : disk.entry? place = some entry) :
    Disk.locateItself (prepared path disk) (temporaryPath path) ≠ .ok place := by
  refine temporary_ne (sound_prepared hsound path)
    (Disk.locateParts_carry (keeps_prepared path disk) hplace) ?_
  rw [prepared_of_some hentry]
  exact fun heq => hfile (Option.some.inj heq)

theorem unsaved_of_persist {archive : Archive} {error : DiskError} (hsound : disk.Sound)
    (hplain : PlainTemporary path (prepared path disk))
    (h : persist ⟨path, archive⟩ disk = (.error error, left)) : Unsaved path disk left := by
  obtain ⟨hkeeps, hentries⟩ := frame_of_persist hsound hplain h
  refine ⟨fun place hplace => untouched_of_prepared (hentries place hplace),
    fun entry hfile hfind => ?_, fun octets hread => ?_⟩
  · obtain ⟨place, hplace, hentry⟩ := Disk.findItself_eq_ok_iff.1 hfind
    refine Disk.findItself_eq_ok_iff.2 ⟨place, Disk.locateParts_carry hkeeps hplace, ?_⟩
    rw [hentries place (temporary_ne_of_entry hsound hfile hplace hentry), prepared_of_some hentry]
  · obtain ⟨entry, hfind, hcontent⟩ := Disk.read_eq_ok_iff.1 hread
    obtain ⟨reached, hreached, hentry⟩ := Disk.find_eq_ok_iff.1 hfind
    have hfile : entry ≠ .directory := by
      rintro rfl
      cases hcontent
    by_cases htemporary :
        Disk.locateItself (prepared path disk) (temporaryPath path) = .ok reached
    · refine .inr ⟨?_, reached, htemporary, hreached⟩
      obtain ⟨place, hplace, hthrough⟩ := Disk.exists_itself_of_locate hreached
      by_contra hlink
      obtain rfl := hthrough fun text htext =>
        hlink ⟨text, Disk.findItself_eq_ok_iff.2 ⟨place, hplace, htext⟩⟩
      exact temporary_ne_of_entry hsound hfile hplace hentry htemporary
    · have hkept : left.entry? reached = some entry := by
        rw [hentries reached htemporary, prepared_of_some hentry]
      refine .inl (Disk.read_eq_ok_iff.2 ⟨entry, Disk.find_eq_ok_iff.2 ⟨reached, ?_, hkept⟩,
        hcontent⟩)
      refine Disk.locate_carry hkeeps hreached fun text hlink => ?_
      exact Disk.ne_link_of_content? hcontent text (Option.some.inj (hkept.symm.trans hlink))

/-- An append adds the command in memory and then rewrites the file. -/
theorem append_eq (file : HistoryFile) (session command : String) (disk : Disk) :
    file.append session command disk =
      let file := { file with archive := file.archive.push session command }
      ((file.persist disk).1.mapError fun error => .storage (Failure.ofDisk error).message, file,
        (file.persist disk).2) := rfl

/-- **An append is all or nothing** on disk, and loses nothing in memory. Whether the file is
written or not, the temporary file is never in the place of a file, the newest command of the
session is the one appended, and after any run of appends every session has the record that it would
have in memory alone. -/
theorem append_atomic {file : HistoryFile} {disk : Disk} (hsound : disk.Sound)
    (hplain : PlainTemporary file.path (prepared file.path disk)) (session command : String) :
    let answer := file.append session command disk
    (match answer.1 with
      | .ok () => Saved file.path (content answer.2.1.archive) disk answer.2.2
      | .error failure =>
        (∃ reason, failure = .storage reason) ∧ Unsaved file.path disk answer.2.2) ∧
      (∀ place, (prepared file.path disk).locateItself file.path = .ok place →
        Disk.entry? (prepared file.path disk) place ≠ some .directory →
        (prepared file.path disk).locateItself (temporaryPath file.path) ≠ .ok place) ∧
      answer.2.1 = { file with archive := file.archive.push session command } ∧
      (0 < file.archive.window →
        (answer.2.1.archive.get? session).bind Record.last? = some command) ∧
      ∀ appends session, ((Store.inFile file).afterAll appends).archive.get? session =
        ((Store.inMemory file.archive).afterAll appends).archive.get? session := by
  intro answer
  refine ⟨?_, fun _ => temporary_ne (sound_prepared hsound _), rfl, fun hwindow => ?_,
    fun appends session => ?_⟩
  · have hanswer : answer = _ := append_eq file session command disk
    rw [hanswer]
    simp only
    rcases hpersist : persist { file with archive := file.archive.push session command } disk with
      ⟨error | done, left⟩
    · exact ⟨⟨_, rfl⟩, unsaved_of_persist hsound hplain hpersist⟩
    · exact saved_of_persist hsound hplain hpersist
  · show ((file.archive.push session command).get? session).bind Record.last? = some command
    rw [Archive.get?_push_self, Option.bind_some, Record.last?_push hwindow]
  · rw [Store.archive_afterAll, Store.archive_afterAll]
    rfl

/-- A temporary file was left behind, and the path leads through a directory that is missing. -/
theorem append_atomic_stale :
    let file : HistoryFile := ⟨"d/e/../h.json", Archive.empty 2⟩
    let disk : Disk := { entries := [(["d"], .directory), (["d", "h.json.tmp"], .file [0x5B])] }
    let answer := file.append "s" "ls" disk
    disk.Sound ∧ PlainTemporary file.path (prepared file.path disk) ∧ answer.1 = .ok () ∧
      Saved file.path (content answer.2.1.archive) disk answer.2.2 := by
  intro file disk answer
  have hsound : disk.Sound := Disk.sound_of_entries (by decide)
  have hstale : (prepared file.path disk).findItself (temporaryPath file.path) =
      .ok (.file [0x5B]) := eq_ok_iff_toOption.2 (by decide +kernel)
  have hplain : PlainTemporary file.path (prepared file.path disk) := .of_file hstale
  have hanswer : answer.1 = .ok () := eq_ok_iff_toOption.2 (by decide +kernel)
  have hall := (append_atomic hsound hplain "s" "ls").1
  rw [hanswer] at hall
  exact ⟨hsound, hplain, hanswer, hall⟩

/-- A link at the temporary path is written through, to a place that an append should not touch; a
device there takes the place of the file; a link at the path itself may have been the way to the
file that takes its place, or may lead to the temporary file of an append that fails. -/
theorem append_atomic_link :
    (¬∀ (file : HistoryFile) (session command : String) (disk : Disk), disk.Sound →
      (file.append session command disk).1 = .ok () →
      ∀ place, (prepared file.path disk).locateItself file.path ≠ .ok place →
        (prepared file.path disk).locateItself (temporaryPath file.path) ≠ .ok place →
        Untouched file.path disk (file.append session command disk).2.2 place) ∧
    (¬∀ (file : HistoryFile) (session command : String) (disk : Disk), disk.Sound →
      (∀ text, (prepared file.path disk).findItself (temporaryPath file.path) ≠
        .ok (.link text)) →
      (file.append session command disk).1 = .ok () →
      (file.append session command disk).2.2.read file.path =
        .ok (content (file.append session command disk).2.1.archive)) ∧
    (¬∀ (file : HistoryFile) (session command : String) (disk : Disk), disk.Sound →
      PlainTemporary file.path (prepared file.path disk) →
      (file.append session command disk).1 = .ok () →
      (file.append session command disk).2.2.read file.path =
        .ok (content (file.append session command disk).2.1.archive)) ∧
    ¬∀ (file : HistoryFile) (session command : String) (disk : Disk) (octets : Octets),
      disk.Sound → PlainTemporary file.path (prepared file.path disk) →
      (file.append session command disk).1.toOption = none → disk.read file.path = .ok octets →
      (file.append session command disk).2.2.read file.path = .ok octets := by
  refine ⟨fun h => ?_, fun h => ?_, fun h => ?_, fun h => ?_⟩
  · have hother := h ⟨"h.json", Archive.empty 1⟩ "s" "ls"
      { entries := [(["h.json.tmp"], .link "other")] } (Disk.sound_of_entries (by decide))
      (eq_ok_iff_toOption.2 (by decide +kernel)) ["other"]
      (eq_ok_iff_toOption.not.2 (by decide +kernel)) (eq_ok_iff_toOption.not.2 (by decide +kernel))
    rcases hother with hsame | ⟨-, hdirectory, -⟩
    · exact absurd hsame (by decide +kernel)
    · exact absurd hdirectory (by decide +kernel)
  · have hread := h ⟨"h.json", Archive.empty 1⟩ "s" "ls"
      { entries := [(["h.json.tmp"], .device .null)] } (Disk.sound_of_entries (by decide)) ?_
      (eq_ok_iff_toOption.2 (by decide +kernel))
    · exact absurd (eq_ok_iff_toOption.1 hread) (by decide +kernel)
    · intro text
      rw [show Disk.findItself _ _ = .ok (.device .null) from
        eq_ok_iff_toOption.2 (by decide +kernel)]
      nofun
  · have hread := h ⟨"h.json/../h.json", Archive.empty 1⟩ "s" "ls"
      { entries := [(["d"], .directory), (["h.json"], .link "d")] }
      (Disk.sound_of_entries (by decide)) ?_ (eq_ok_iff_toOption.2 (by decide +kernel))
    · exact absurd (eq_ok_iff_toOption.1 hread) (by decide +kernel)
    · intro entry hentry
      exact absurd (eq_ok_iff_toOption.1 hentry) (by
        rw [show Except.toOption _ = none by decide +kernel]
        nofun)
  · have hread := h ⟨"h.json", Archive.empty 1⟩ "s" "ls"
      { entries := [(["h.json"], .link "h.json.tmp"), (["h.json.tmp"], .file [])]
        refuses := fun
          | .rename _ _ => some { error := .busy }
          | _ => none }
      [] (Disk.sound_of_entries (by decide)) ?_ (by decide +kernel)
      (eq_ok_iff_toOption.2 (by decide +kernel))
    · exact absurd (eq_ok_iff_toOption.1 hread) (by decide +kernel)
    · exact .of_file
        (eq_ok_iff_toOption.2 (show Except.toOption _ = some (Entry.file []) by decide +kernel))

end HistoryFile

end HistoryExpansion
