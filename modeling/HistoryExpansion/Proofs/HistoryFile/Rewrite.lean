import HistoryExpansion.HistoryFile
import HistoryExpansion.Proofs.Disk.Change

/-!
# Rewriting a history file

Where a rewrite that goes through leaves everything (`Rewritten`, `persist_ok`), and what one that
fails can have changed (`persist_error`), on every sound disk and for every path. The directories
above the path come first: `prepared` is the disk with all of them that could be made.
-/

namespace HistoryExpansion.HistoryFile

open HistoryExpansion.Disk (Keeps Sound)
open HistoryExpansion.Path (IsProper)

variable {path : String} {archive : Archive} {disk left : Disk} {place : Location}

/-! ## Directories above -/

/-- A disk once the directories above a path are made, as far as that goes. -/
def prepared (path : String) (disk : Disk) : Disk :=
  (makeParent path disk).2

/-- A place that has the path of a directory above another path. -/
def Above (path : String) (disk : Disk) (place : Location) : Prop :=
  ∃ parent front, Path.parent? path = some parent ∧ front ≠ [] ∧ front <+: Path.parts parent ∧
    disk.locateNew (Path.ofParts (Path.isAbsolute parent) front) = .ok place

theorem prepared_of_none (h : Path.parent? path = none) (disk : Disk) :
    prepared path disk = disk := by
  rw [prepared, makeParent, h]

theorem grown_prepared {parent : String} (h : Path.parent? path = some parent) (disk : Disk) :
    Disk.Grown (Path.isAbsolute parent) (Path.parts parent) disk (prepared path disk) := by
  rw [prepared, makeParent, h]
  simp only
  split
  · exact .refl _ _ _
  · unfold Disk.makeDirectories
    split
    · exact .refl _ _ _
    · have hgrown := Disk.grown_makeDirectoriesAt (Path.isAbsolute parent)
        (Path.parts parent).reverse disk
      rw [List.reverse_reverse] at hgrown
      exact hgrown

theorem keeps_prepared (path : String) (disk : Disk) : Keeps disk (prepared path disk) := by
  cases h : Path.parent? path with
  | none =>
    rw [prepared_of_none h]
    exact .refl disk
  | some parent => exact (grown_prepared h disk).keeps

theorem sound_prepared (h : disk.Sound) (path : String) : (prepared path disk).Sound := by
  cases hparent : Path.parent? path with
  | none =>
    rw [prepared_of_none hparent]
    exact h
  | some parent => exact (grown_prepared hparent disk).sound h

/-- **Making the directories above a path** puts them where nothing stood and changes nothing
else. -/
theorem prepared_cases (path : String) (disk : Disk) (place : Location) :
    Disk.entry? (prepared path disk) place = disk.entry? place ∨
      disk.entry? place = none ∧ Disk.entry? (prepared path disk) place = some .directory ∧
        Above path (prepared path disk) place := by
  cases h : Path.parent? path with
  | none =>
    rw [prepared_of_none h]
    exact .inl rfl
  | some parent =>
    refine ((grown_prepared h disk).added place).imp_right ?_
    rintro ⟨hnone, hnew, front, hfront, hparts, hplace⟩
    exact ⟨hnone, hnew, parent, front, h, hfront, hparts, hplace⟩

/-- Making the directories above a path loses nothing. -/
theorem prepared_of_some {entry : Entry} (h : disk.entry? place = some entry) :
    Disk.entry? (prepared path disk) place = some entry := by
  rcases prepared_cases path disk place with hsame | ⟨hnone, -⟩
  · rw [hsame, h]
  · rw [h] at hnone
    cases hnone

/-! ## The temporary file -/

/-- **The temporary file is apart** from the file of a path that can have a file. -/
theorem temporary_ne (hsound : disk.Sound) (h : disk.locateItself path = .ok place)
    (hplace : disk.entry? place ≠ some .directory) :
    disk.locateItself (temporaryPath path) ≠ .ok place := by
  obtain ⟨front, lead, last, hends⟩ := Path.exists_ends path
  obtain ⟨hproper, above, habove, -⟩ := hsound.locateItself hends.segments_eq h hplace
  obtain ⟨other, hother, hne, -⟩ := Path.segments_temporary hends.segments_eq hproper
  intro htemporary
  obtain ⟨-, above', habove', -⟩ := hsound.locateItself hother htemporary hplace
  obtain ⟨-, hsame⟩ := List.append_inj' (habove'.symm.trans habove) rfl
  exact hne (List.singleton_inj.1 hsame)

/-! ## Rewriting -/

/-- What a rewrite of the file at a path leaves of a disk with the directories above it. The new
content is written to the place that the temporary path leads to; then what that path names, a file
unless a link or a device stood there, is moved to the place that the path names. -/
structure Rewritten (path : String) (octets : Octets) (disk written left : Disk)
    (target temporary reached : Location) (moved : Entry) : Prop where
  target_eq : disk.locateItself path = .ok target
  temporary_eq : disk.locateItself (temporaryPath path) = .ok temporary
  reached_eq : disk.locate (temporaryPath path) = .ok reached
  apart : temporary ≠ target
  target_file : disk.entry? target ≠ some .directory
  temporary_file : disk.entry? temporary ≠ some .directory
  reached_file : disk.entry? reached ≠ some .directory
  filled : (∃ device, disk.entry? reached = some (.device device)) ∧ written = disk ∨
    (∀ device, disk.entry? reached ≠ some (.device device)) ∧ written = disk.fill reached octets
  moved_eq : written.entry? temporary = some moved
  here : left.here = disk.here
  entries : ∀ place, left.entry? place =
    if place = target then some moved else if place = temporary then none
    else written.entry? place

/-- The steps of a rewrite: the directories, the temporary file, and the move. -/
theorem persist_cases (path : String) (archive : Archive) (disk : Disk) :
    (∃ error, persist ⟨path, archive⟩ disk = (.error error, prepared path disk)) ∨
      (∃ error left, Disk.write (temporaryPath path) (content archive) (prepared path disk) =
          (.error error, left) ∧ persist ⟨path, archive⟩ disk = (.error error, left)) ∨
      ∃ written, Disk.write (temporaryPath path) (content archive) (prepared path disk) =
          (.ok (), written) ∧
        persist ⟨path, archive⟩ disk = Disk.rename (temporaryPath path) path written := by
  unfold persist prepared
  split
  · next error made hmade =>
    rw [hmade]
    exact .inl ⟨error, rfl⟩
  · next made hmade =>
    rw [hmade]
    split
    · next error left hwrite => exact .inr (.inl ⟨error, left, hwrite, rfl⟩)
    · next written hwrite => exact .inr (.inr ⟨written, hwrite, rfl⟩)

/-- What a write to a place that is no directory leaves of a sound disk: the same roads. -/
theorem write_keeps {reached : Location} {temporary : String} (hsound : disk.Sound)
    (hreached : disk.locate temporary = .ok reached)
    (hfile : disk.entry? reached ≠ some .directory) (octets : Octets) :
    Keeps disk (disk.fill reached octets) ∧ Keeps (disk.fill reached octets) disk ∧
      (disk.fill reached octets).Sound := by
  have hlink : ∀ text, disk.entry? reached ≠ some (.link text) := fun text =>
    (Disk.locateParts_eq_ok_iff.1 hreached).2.not_link (Path.segments_ne_nil _)
  obtain ⟨hkeeps, hkept⟩ := Disk.keeps_fill hfile hlink octets
  exact ⟨hkeeps, hkept, hsound.fill hfile hlink (hsound.locate hreached hfile) octets⟩

/-- **A rewrite that fails** has changed nothing but what the temporary path leads to, once the
directories above are made. -/
theorem persist_error {error : DiskError}
    (h : persist ⟨path, archive⟩ disk = (.error error, left)) :
    left = prepared path disk ∨ ∃ reached octets,
      (prepared path disk).locate (temporaryPath path) = .ok reached ∧
        Disk.entry? (prepared path disk) reached ≠ some .directory ∧
        left = (prepared path disk).fill reached octets := by
  rcases persist_cases path archive disk with
    ⟨error', herror⟩ | ⟨error', left', hwrite, hpersist⟩ | ⟨written, hwrite, hpersist⟩
  · rw [herror] at h
    cases h
    exact .inl rfl
  · rw [hpersist] at h
    cases h
    exact Disk.write_error hwrite
  · rw [hpersist] at h
    obtain rfl := Disk.rename_error h
    obtain ⟨reached, hreached, hfile, ⟨-, hsame⟩ | ⟨-, hfilled⟩⟩ := Disk.write_ok hwrite
    · exact .inl hsame
    · exact .inr ⟨reached, _, hreached, hfile, hfilled⟩

/-- What the temporary path names once it can be written, on every disk with the same roads. -/
theorem exists_temporary {reached : Location} (hsound : disk.Sound)
    (hreached : disk.locate (temporaryPath path) = .ok reached)
    (hfile : disk.entry? reached ≠ some .directory) :
    ∃ temporary, disk.locateItself (temporaryPath path) = .ok temporary ∧
      disk.entry? temporary ≠ some .directory ∧
      ∀ other, Keeps disk other → other.locateNew (temporaryPath path) = .ok temporary := by
  obtain ⟨temporary, htemporary, hthrough⟩ := Disk.exists_itself_of_locate hreached
  refine ⟨temporary, htemporary, fun hdirectory => ?_, fun other hkeeps => ?_⟩
  · obtain rfl := hthrough fun text hlink => by
      rw [hdirectory] at hlink
      cases hlink
    exact hfile hdirectory
  · -- The path ends in a name, so a move of it takes what it names.
    obtain ⟨front, last, hsegments⟩ := Path.exists_segments (temporaryPath path)
    have hproper := hsound.isProper hsegments hreached hfile
    rw [Disk.locateNew_eq_locateItself hsegments hproper.nonempty]
    exact Disk.locateParts_carry hkeeps htemporary

/-- What a path names that something was moved to, on every disk with the same roads. -/
theorem locateItself_of_moved {target : Location} {written : Disk}
    (htarget : written.locateNew path = .ok target) (hdots : Disk.endsInDots path = false)
    (hslash : Path.endsInSlash path = false) (hkept : Keeps written disk) :
    disk.locateItself path = .ok target := by
  obtain ⟨front, last, hsegments⟩ := Path.exists_segments path
  have hproper := Disk.isProper_of_endsIn hsegments
    (Disk.locateParts_eq_ok_iff.1 htarget).1.nonempty hdots hslash
  rw [Disk.locateNew_eq_locateItself hsegments hproper.nonempty] at htarget
  exact Disk.locateParts_carry hkept htarget

/-- **A rewrite that goes through** has replaced the file. -/
theorem persist_ok (hsound : disk.Sound) (h : persist ⟨path, archive⟩ disk = (.ok (), left)) :
    ∃ written target temporary reached moved, left.Sound ∧
      Rewritten path (content archive) (prepared path disk) written left target temporary reached
        moved := by
  have hmade := sound_prepared hsound path
  rcases persist_cases path archive disk with
    ⟨error, herror⟩ | ⟨error, left', hwrite, hpersist⟩ | ⟨written, hwrite, hpersist⟩
  · rw [herror] at h
    cases h
  · rw [hpersist] at h
    cases h
  rw [hpersist] at h
  obtain ⟨reached, hreached, hfile, hfilled⟩ := Disk.write_ok hwrite
  generalize prepared path disk = made at hmade hreached hfile hfilled
  obtain ⟨hkeeps, hkept, hsoundWritten⟩ :
      Keeps made written ∧ Keeps written made ∧ written.Sound := by
    rcases hfilled with ⟨-, rfl⟩ | ⟨-, rfl⟩
    · exact ⟨.refl _, .refl _, hmade⟩
    · exact write_keeps hmade hreached hfile _
  obtain ⟨temporary, htemporary, htemporaryFile, hnew⟩ := exists_temporary hmade hreached hfile
  have hsourceFile : ∀ place, written.locateNew (temporaryPath path) = .ok place →
      written.entry? place ≠ some .directory := by
    intro place hplace hdirectory
    obtain rfl := Except.ok.inj ((hnew written hkeeps).symm.trans hplace)
    exact htemporaryFile (hkept.directory _ hdirectory)
  obtain ⟨source, target, moved, hsource, htarget, hmoved, htargetFile, -, hdots, hslash, rfl⟩ :=
    Disk.rename_ok h hsourceFile
  obtain rfl := Except.ok.inj ((hnew written hkeeps).symm.trans hsource)
  have htargetMade := locateItself_of_moved htarget hdots hslash hkept
  have htargetFileMade : made.entry? target ≠ some .directory := fun hdirectory =>
    htargetFile (hkeeps.directory _ hdirectory)
  have hne : temporary ≠ target := by
    rintro rfl
    exact temporary_ne hmade htargetMade htargetFileMade htemporary
  have hmovedFile : moved ≠ .directory := by
    rintro rfl
    exact hsourceFile _ hsource hmoved
  rw [if_neg hne]
  exact ⟨written, target, temporary, reached, moved,
    hsoundWritten.moveTree_file hmoved hmovedFile htargetFile hne
      (hsoundWritten.locateNew htarget htargetFile),
    { target_eq := htargetMade
      temporary_eq := htemporary
      reached_eq := hreached
      apart := hne
      target_file := htargetFileMade
      temporary_file := htemporaryFile
      reached_file := hfile
      filled := hfilled
      moved_eq := hmoved
      here := hkeeps.here
      entries := Disk.entry?_moveTree_file hsoundWritten hmoved hmovedFile htargetFile hne }⟩

end HistoryExpansion.HistoryFile
