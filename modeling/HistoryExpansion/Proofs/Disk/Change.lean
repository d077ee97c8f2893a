import Mathlib.Data.List.TakeWhile
import HistoryExpansion.Proofs.Disk.Road

/-!
# What changes leave

Each change is described by the places whose entries are others afterwards. Making directories puts
directories at places where nothing stood, each the place of a path on the way (`Grown`). A write
fills the place that its path leads to or changes nothing (`write_ok`, `write_error`). A move that
succeeds for a file lets it stand at the one place and nothing at the other
(`entry?_moveTree_file`), and one that fails changes nothing (`rename_error`). All of them keep a
sound disk sound.
-/

namespace HistoryExpansion

namespace Disk

open HistoryExpansion.Path (IsProper)

variable {disk left : Disk} {place other source target : Location} {path name : String}
  {parts front : List String} {absolute : Bool} {entry : Entry}

/-! ## Places for what is new -/

theorem ne_nil_of_not_directory (h : disk.entry? place ≠ some .directory) : place ≠ [] := by
  rintro rfl
  exact h rfl

theorem forall_eq_of_withoutTrailingSlashes {segments : List String}
    (h : withoutTrailingSlashes segments = []) : ∀ segment ∈ segments, segment = "" := by
  rw [withoutTrailingSlashes, List.reverse_eq_nil_iff, List.dropWhile_eq_nil_iff] at h
  intro segment hsegment
  exact of_decide_eq_true (h segment (List.mem_reverse.2 hsegment))

/-- What is made on a sound disk is made in a directory. -/
theorem Sound.locateNew (hsound : disk.Sound) (h : disk.locateNew path = .ok place)
    (hplace : disk.entry? place ≠ some .directory) :
    ∃ above name, place = above ++ [name] ∧ disk.entry? above = some .directory := by
  obtain ⟨hpath, hleads⟩ := locateParts_eq_ok_iff.1 h
  by_cases hnil : withoutTrailingSlashes (Path.segments path) = []
  · have habsolute : Path.isAbsolute path = true :=
      Path.isAbsolute_of_segments (forall_eq_of_withoutTrailingSlashes hnil) hpath.nonempty
    rw [hnil, startFrom, if_pos habsolute] at hleads
    cases hleads
    exact absurd rfl (ne_nil_of_not_directory hplace)
  · exact hsound.exists_parent hleads hnil hplace

theorem withoutTrailingSlashes_concat (hname : name ≠ "") :
    withoutTrailingSlashes (front ++ [name]) = front ++ [name] := by
  rw [withoutTrailingSlashes, List.reverse_append, List.reverse_singleton, List.singleton_append,
    List.dropWhile_cons_of_neg (by simpa using hname), List.reverse_cons, List.reverse_reverse]

theorem locateNew_eq_locateItself (h : Path.segments path = front ++ [name]) (hname : name ≠ "") :
    disk.locateNew path = disk.locateItself path := by
  rw [locateNew, locateItself, h, withoutTrailingSlashes_concat hname]

theorem exists_entry?_of_mem {old : Location × Entry} (h : old ∈ disk.entries) :
    ∃ entry, disk.entry? old.1 = some entry := by
  by_cases hroot : old.1 = []
  · exact ⟨.directory, if_pos hroot⟩
  · rw [entry?_eq_find? hroot]
    cases hfind : disk.entries.find? (·.1 == old.1) with
    | none => exact absurd BEq.rfl (List.find?_eq_none.1 hfind old h)
    | some found => exact ⟨found.2, rfl⟩

/-- A disk is sound if every entry in its list stands in a directory. -/
theorem sound_of_entries (h : ∀ old ∈ disk.entries, disk.entry? old.1.dropLast = some .directory) :
    disk.Sound := by
  intro place name entry hentry
  rw [entry?_eq_find? (List.concat_ne_nil _ _), Option.map_eq_some_iff] at hentry
  obtain ⟨old, hfind, -⟩ := hentry
  have hplace := h old (List.mem_of_find?_eq_some hfind)
  have hsame : old.1 = place ++ [name] := by simpa using List.find?_some hfind
  rw [hsame, List.dropLast_concat] at hplace
  exact hplace

/-! ## Filling and making -/

theorem create_frame (disk : Disk) (place : Location) (entry : Entry) :
    (disk.create place entry).entries = (disk.put place entry).entries ∧
      (disk.create place entry).here = disk.here := by
  unfold create
  simp only
  split <;> exact ⟨rfl, rfl⟩

theorem entry?_create (h : place ≠ []) (disk : Disk) (entry : Entry) (other : Location) :
    entry? (disk.create place entry) other =
      if other = place then some entry else disk.entry? other := by
  rw [entry?_congr (create_frame disk place entry).1, entry?_put h]

/-- Where neither a directory nor a link stands, a file may come to stand without a road being lost
or found. -/
theorem keeps_fill (h : disk.entry? place ≠ some .directory)
    (hlink : ∀ text, disk.entry? place ≠ some (.link text)) (octets : Octets) :
    Keeps disk (disk.fill place octets) ∧ Keeps (disk.fill place octets) disk := by
  have hroot := ne_nil_of_not_directory h
  refine ⟨⟨here_fill _ _ _, fun other hother => ?_, fun other text hother => ?_⟩,
    ⟨(here_fill _ _ _).symm, fun other hother => ?_, fun other text hother => ?_⟩⟩
  · rw [entry?_fill hroot, if_neg, hother]
    rintro rfl
    exact h hother
  · rw [entry?_fill hroot, if_neg, hother]
    rintro rfl
    exact hlink text hother
  · rw [entry?_fill hroot] at hother
    split at hother
    · cases hother
    · exact hother
  · rw [entry?_fill hroot] at hother
    split at hother
    · cases hother
    · exact hother

/-! ## Making directories -/

/-- One directory is made where nothing stood, or nothing is changed. -/
theorem makeDirectory_cases (path : String) (disk : Disk) :
    (∃ error, makeDirectory path disk = (.error error, disk)) ∨
      ∃ place, disk.locateNew path = .ok place ∧ disk.entry? place = none ∧
        makeDirectory path disk = (.ok (), disk.create place .directory) := by
  unfold makeDirectory
  split
  · next error _ => exact .inl ⟨error, rfl⟩
  · next place hplace =>
    split
    · exact .inl ⟨_, rfl⟩
    · next hentry =>
      unfold unlessRefused
      split
      · next refusal _ => exact .inl ⟨refusal.error, rfl⟩
      · exact .inr ⟨place, hplace, hentry, rfl⟩

/-- Where nothing stood, a directory may come to stand without a road being lost. -/
theorem keeps_create (hnone : disk.entry? place = none) :
    Keeps disk (disk.create place .directory) := by
  have hroot : place ≠ [] := by
    rintro rfl
    cases hnone
  have hkept : ∀ other entry, disk.entry? other = some entry →
      entry? (disk.create place .directory) other = some entry := by
    intro other entry hother
    rw [entry?_create hroot, if_neg, hother]
    rintro rfl
    rw [hnone] at hother
    cases hother
  exact ⟨(create_frame _ _ _).2, fun other => hkept other _, fun other text => hkept other _⟩

/-- A disk has grown by directories, each at the place of a path that leads up through some of the
parts. -/
structure Grown (absolute : Bool) (parts : List String) (disk left : Disk) : Prop where
  here : left.here = disk.here
  sound : disk.Sound → left.Sound
  added : ∀ place, left.entry? place = disk.entry? place ∨
    disk.entry? place = none ∧ left.entry? place = some .directory ∧
      ∃ front, front ≠ [] ∧ front <+: parts ∧
        left.locateNew (Path.ofParts absolute front) = .ok place

namespace Grown

theorem refl (absolute : Bool) (parts : List String) (disk : Disk) :
    Grown absolute parts disk disk :=
  ⟨rfl, id, fun _ => .inl rfl⟩

theorem keeps (h : Grown absolute parts disk left) : Keeps disk left := by
  refine ⟨h.here, fun place hplace => ?_, fun place text hplace => ?_⟩
  · rcases h.added place with hsame | ⟨hnone, -⟩
    · rw [hsame, hplace]
    · rw [hplace] at hnone
      cases hnone
  · rcases h.added place with hsame | ⟨hnone, -⟩
    · rw [hsame, hplace]
    · rw [hplace] at hnone
      cases hnone

theorem mono {more : List String} (h : Grown absolute parts disk left) (hmore : parts <+: more) :
    Grown absolute more disk left := by
  refine ⟨h.here, h.sound, fun place => (h.added place).imp_right ?_⟩
  rintro ⟨hnone, hnew, front, hfront, hparts, hplace⟩
  exact ⟨hnone, hnew, front, hfront, hparts.trans hmore, hplace⟩

theorem trans {middle : Disk} (h : Grown absolute parts disk middle)
    (h' : Grown absolute parts middle left) : Grown absolute parts disk left := by
  refine ⟨h'.here.trans h.here, fun hsound => h'.sound (h.sound hsound), fun place => ?_⟩
  rcases h'.added place with hsame | ⟨hnone, hnew, habove⟩
  · rw [hsame]
    refine (h.added place).imp_right ?_
    rintro ⟨hnone, hnew, front, hfront, hparts, hplace⟩
    exact ⟨hnone, hnew, front, hfront, hparts, locateParts_carry h'.keeps hplace⟩
  · rcases h.added place with hsame | ⟨-, hdirectory, -⟩
    · exact .inr ⟨hsame ▸ hnone, hnew, habove⟩
    · rw [hnone] at hdirectory
      cases hdirectory

/-- One directory more. -/
theorem create (hparts : parts ≠ [])
    (hplace : disk.locateNew (Path.ofParts absolute parts) = .ok place)
    (hnone : disk.entry? place = none) :
    Grown absolute parts disk (disk.create place .directory) := by
  have hnot : disk.entry? place ≠ some .directory := by
    rw [hnone]
    nofun
  have hroot := ne_nil_of_not_directory hnot
  have hkeeps := keeps_create hnone
  refine ⟨hkeeps.here, fun hsound => ?_, fun other => ?_⟩
  · refine hsound.of_new hkeeps.directory fun above name entry hentry hnew => ?_
    rw [entry?_create hroot] at hentry
    split at hentry
    · next heq =>
      obtain ⟨above', name', rfl, habove⟩ := hsound.locateNew hplace hnot
      obtain ⟨rfl, -⟩ := List.append_inj' heq rfl
      exact habove
    · rw [hnew] at hentry
      cases hentry
  · rw [entry?_create hroot]
    split
    · next heq =>
      subst heq
      exact .inr ⟨hnone, rfl, parts, hparts, List.prefix_rfl, locateParts_carry hkeeps hplace⟩
    · exact .inl rfl

end Grown

/-- Making one directory grows a disk. -/
theorem grown_makeDirectory (absolute : Bool) (hparts : parts ≠ []) (disk : Disk) :
    Grown absolute parts disk (makeDirectory (Path.ofParts absolute parts) disk).2 := by
  rcases makeDirectory_cases (Path.ofParts absolute parts) disk with
    ⟨error, herror⟩ | ⟨place, hplace, hnone, hmade⟩
  · rw [herror]
    exact .refl absolute parts disk
  · rw [hmade]
    exact .create hparts hplace hnone

/-- **Making directories** grows a disk, also where it fails on the way. -/
theorem grown_makeDirectoriesAt (absolute : Bool) (reversed : List String) (disk : Disk) :
    Grown absolute reversed.reverse disk (makeDirectoriesAt absolute reversed disk).2 := by
  induction reversed generalizing disk with
  | nil => exact .refl absolute [] disk
  | cons last above ih =>
    have hparts : (last :: above).reverse ≠ [] := by
      rw [List.reverse_cons]
      exact List.concat_ne_nil _ _
    have habove : above.reverse <+: (last :: above).reverse := by
      rw [List.reverse_cons]
      exact List.prefix_append _ _
    have hmake := grown_makeDirectory absolute hparts
    rw [makeDirectoriesAt]
    split
    · next first heq => exact heq ▸ hmake disk
    · next first heq =>
      have hfirst := hmake disk
      rw [heq] at hfirst
      have hrest := hfirst.trans ((ih first).mono habove)
      split
      · next heq => exact heq ▸ hrest
      · next second heq =>
        rw [heq] at hrest
        have hthird := hrest.trans (hmake second)
        split
        · next heq => exact heq ▸ hthird
        · next heq =>
          rw [heq] at hthird
          split <;> exact hthird
    · next heq =>
      have hfirst := hmake disk
      rw [heq] at hfirst
      split <;> exact hfirst

theorem holdsDirectory_iff : disk.holdsDirectory path = true ↔
    ∃ place, disk.locate path = .ok place ∧ disk.entry? place = some .directory := by
  rw [← find_eq_ok_iff, holdsDirectory]
  split
  · next hfind => exact ⟨fun _ => hfind, fun _ => rfl⟩
  · next hother => exact ⟨nofun, fun hfind => absurd hfind hother⟩

theorem startFrom_ofParts {shorter parts : List String} (h : parts ≠ [])
    (hparts : ∀ part ∈ parts, part ≠ "" ∧ '/' ∉ part.toList) (hshorter : shorter ≠ [])
    (hshorterParts : ∀ part ∈ shorter, part ≠ "" ∧ '/' ∉ part.toList) :
    startFrom place (Path.ofParts absolute parts) =
      startFrom place (Path.ofParts absolute shorter) := by
  rw [startFrom, startFrom, Path.isAbsolute_ofParts h hparts,
    Path.isAbsolute_ofParts hshorter hshorterParts]

/-- The parts of a path at which there is a directory lead to it. -/
theorem leads_of_holdsDirectory {parts : List String} (hne : parts ≠ [])
    (hparts : ∀ part ∈ parts, part ≠ "" ∧ '/' ∉ part.toList)
    (h : disk.holdsDirectory (Path.ofParts absolute parts) = true) :
    ∃ goal, disk.entry? goal = some .directory ∧
      Leads disk true mostLinks (startFrom disk.here (Path.ofParts absolute parts))
        ((if absolute then [""] else []) ++ parts) goal := by
  obtain ⟨goal, hgoal, hdirectory⟩ := holdsDirectory_iff.1 h
  have hleads := (locateParts_eq_ok_iff.1 hgoal).2
  rw [Path.segments_ofParts hne fun part hpart => (hparts part hpart).2] at hleads
  exact ⟨goal, hdirectory, hleads⟩

/-- A directory that was made is there. -/
theorem holdsDirectory_makeDirectory (h : Path.segments path = front ++ [name]) (hname : name ≠ "")
    (hmade : makeDirectory path disk = (.ok (), left)) : left.holdsDirectory path = true := by
  rcases makeDirectory_cases path disk with ⟨error, herror⟩ | ⟨place, hplace, hnone, hcreated⟩
  · rw [herror] at hmade
    cases hmade
  · rw [hcreated] at hmade
    cases hmade
    have hroot : place ≠ [] := by
      rintro rfl
      cases hnone
    have hentry : entry? (disk.create place .directory) place = some .directory := by
      rw [entry?_create hroot, if_pos rfl]
    rw [locateNew_eq_locateItself h hname] at hplace
    refine holdsDirectory_iff.2 ⟨place, locate_of_itself
      (locateParts_carry (keeps_create hnone) hplace) ?_, hentry⟩
    rw [hentry]
    nofun

/-- **Directories that were made** are there. -/
theorem holdsDirectory_makeDirectoriesAt {reversed : List String} (hne : reversed ≠ [])
    (hparts : ∀ part ∈ reversed, part ≠ "" ∧ '/' ∉ part.toList)
    (h : makeDirectoriesAt absolute reversed disk = (.ok (), left)) :
    left.holdsDirectory (Path.ofParts absolute reversed.reverse) = true := by
  obtain ⟨last, above, rfl⟩ := List.exists_cons_of_ne_nil hne
  have hlast : last ≠ "" := (hparts last List.mem_cons_self).1
  have hsplit : Path.segments (Path.ofParts absolute (last :: above).reverse) =
      ((if absolute then [""] else []) ++ above.reverse) ++ [last] := by
    rw [Path.segments_ofParts (List.reverse_eq_nil_iff.not.2 hne)
      (fun part hpart => (hparts part (List.mem_reverse.1 hpart)).2), List.reverse_cons,
      List.append_assoc]
  rw [makeDirectoriesAt] at h
  split at h
  · next hmade =>
    cases h
    exact holdsDirectory_makeDirectory hsplit hlast hmade
  · split at h
    · cases h
    · split at h
      · next hmade =>
        cases h
        exact holdsDirectory_makeDirectory hsplit hlast hmade
      · split at h
        · next hholds =>
          cases h
          exact hholds
        · cases h
  · split at h
    · next hholds =>
      cases h
      exact hholds
    · cases h

/-- Where every path on the way leads to something or nowhere, no directory is made. -/
theorem makeDirectoriesAt_eq_self {reversed : List String}
    (h : ∀ front, front ≠ [] → front <+: reversed.reverse → ∀ place,
      disk.locateNew (Path.ofParts absolute front) = .ok place → disk.entry? place ≠ none) :
    (makeDirectoriesAt absolute reversed disk).2 = disk := by
  induction reversed with
  | nil => rfl
  | cons last above ih =>
    have habove := ih fun front hfront hprefix => h front hfront (by
      rw [List.reverse_cons]
      exact hprefix.trans (List.prefix_append _ _))
    have hself : (makeDirectory (Path.ofParts absolute (last :: above).reverse) disk).2 = disk := by
      rcases makeDirectory_cases (Path.ofParts absolute (last :: above).reverse) disk with
        ⟨error, herror⟩ | ⟨place, hplace, hnone, -⟩
      · rw [herror]
      · exact absurd hnone (h _ (List.reverse_eq_nil_iff.not.2 (List.cons_ne_nil _ _))
          List.prefix_rfl place hplace)
    rw [makeDirectoriesAt]
    split
    · next heq =>
      rw [heq] at hself
      exact hself
    · next first heq =>
      rw [heq] at hself
      obtain rfl : first = disk := hself
      split
      · next hmade =>
        rw [hmade] at habove
        exact habove
      · next second hmade =>
        rw [hmade] at habove
        obtain rfl : second = first := habove
        rw [heq]
        show (if _ then _ else _ : Except DiskError Unit × Disk).2 = second
        split <;> rfl
    · next heq =>
      rw [heq] at hself
      split <;> exact hself

/-! ## Writing -/

/-- A disk stays sound when a file is written into a directory. -/
theorem Sound.fill (hsound : disk.Sound) (hplace : disk.entry? place ≠ some .directory)
    (hlink : ∀ text, disk.entry? place ≠ some (.link text))
    (hparent : ∃ above name, place = above ++ [name] ∧ disk.entry? above = some .directory)
    (octets : Octets) : (disk.fill place octets).Sound := by
  have hkeeps := (keeps_fill hplace hlink octets).1
  refine hsound.of_new hkeeps.directory fun above name entry hentry hnew => ?_
  rw [entry?_fill (ne_nil_of_not_directory hplace)] at hentry
  split at hentry
  · next heq =>
    obtain ⟨above', name', rfl, habove⟩ := hparent
    obtain ⟨rfl, -⟩ := List.append_inj' heq rfl
    exact habove
  · rw [hnew] at hentry
    cases hentry

/-- **A write that succeeds** fills the place that its path leads to, unless a device takes it. -/
theorem write_ok {content : Octets} (h : write path content disk = (.ok (), left)) :
    ∃ place, disk.locate path = .ok place ∧ disk.entry? place ≠ some .directory ∧
      ((∃ device, disk.entry? place = some (.device device)) ∧ left = disk ∨
        (∀ device, disk.entry? place ≠ some (.device device)) ∧
          left = disk.fill place content) := by
  unfold write at h
  split at h
  · cases h
  next place hplace =>
  split at h
  · cases h
  · cases h
  · next device _ hdevice =>
    cases h
    exact ⟨place, hplace, by rw [hdevice]; nofun, .inl ⟨⟨device, hdevice⟩, rfl⟩⟩
  · next hdirectory _ hdevice =>
    split at h
    · cases h
    · cases h
      exact ⟨place, hplace, hdirectory, .inr ⟨hdevice, rfl⟩⟩

/-- **A write that fails** changes nothing, or leaves some other content where its path leads to. -/
theorem write_error {content : Octets} {error : DiskError}
    (h : write path content disk = (.error error, left)) :
    left = disk ∨ ∃ place octets, disk.locate path = .ok place ∧
      disk.entry? place ≠ some .directory ∧ left = disk.fill place octets := by
  unfold write at h
  split at h
  · cases h
    exact .inl rfl
  next place hplace =>
  split at h
  · cases h
    exact .inl rfl
  · cases h
    exact .inl rfl
  · cases h
  · next hdirectory _ _ =>
    split at h
    · cases h
      split
      · next octets _ => exact .inr ⟨place, octets, hplace, hdirectory, rfl⟩
      · exact .inl rfl
    · cases h

/-! ## Moving -/

/-- A move that fails changes nothing. -/
theorem rename_error {source target : String} {error : DiskError}
    (h : rename source target disk = (.error error, left)) : left = disk := by
  unfold rename unlessRefused at h
  split at h
  · cases h
    rfl
  · cases h
    rfl
  split at h
  · cases h
    rfl
  split at h
  · cases h
    rfl
  split at h
  · cases h
    rfl
  split at h
  · cases h
    rfl
  split at h
  · cases h
    rfl
  · cases h

/-- A path that may be moved to ends in a name. -/
theorem isProper_of_endsIn (h : Path.segments path = front ++ [name]) (hpath : path ≠ "")
    (hdots : endsInDots path = false) (hslash : Path.endsInSlash path = false) :
    IsProper name := by
  have hname : name ≠ "" := by
    rintro rfl
    rw [Path.endsInSlash_of_segments h hpath] at hslash
    cases hslash
  rw [endsInDots, h, withoutTrailingSlashes_concat hname, List.getLast?_concat] at hdots
  obtain ⟨hdot, hdots⟩ := Bool.or_eq_false_iff.1 hdots
  exact ⟨hname, beq_eq_false_iff_ne.1 hdot, beq_eq_false_iff_ne.1 hdots⟩

/-- What a move that succeeds has met with, if it moves no directory. -/
theorem rename_ok {source target : String} (h : rename source target disk = (.ok (), left))
    (hfile : ∀ place, disk.locateNew source = .ok place →
      disk.entry? place ≠ some .directory) :
    ∃ sourcePlace targetPlace entry, disk.locateNew source = .ok sourcePlace ∧
      disk.locateNew target = .ok targetPlace ∧ disk.entry? sourcePlace = some entry ∧
      disk.entry? targetPlace ≠ some .directory ∧ endsInDots source = false ∧
      endsInDots target = false ∧ Path.endsInSlash target = false ∧
      left = if sourcePlace = targetPlace then disk
        else (disk.drop targetPlace).moveTree sourcePlace targetPlace := by
  unfold rename unlessRefused at h
  split at h
  · cases h
  · cases h
  next sourcePlace targetPlace hsource htarget =>
  have hmoves := hfile sourcePlace hsource
  split at h
  · cases h
  next hdots =>
  split at h
  · cases h
  next entry hentry =>
  split at h
  · cases h
  next hslash =>
  split at h
  · cases h
  next hreplaced =>
  split at h
  · cases h
  cases h
  have hentryFile : entry ≠ .directory := by
    rintro rfl
    exact hmoves hentry
  rw [not_or, Bool.not_eq_true, Bool.not_eq_true] at hdots
  refine ⟨sourcePlace, targetPlace, entry, hsource, htarget, hentry, fun hdirectory => ?_,
    hdots.1, hdots.2, ?_, rfl⟩
  · rw [replacement?, beq_eq_false_iff_ne.2 hmoves, hdirectory] at hreplaced
    cases hreplaced
  · rw [not_and, not_or, Bool.not_eq_true, Bool.not_eq_true] at hslash
    exact (hslash hentryFile).2

/-- Moving a file lets nothing stand where nothing stood, but for its new place. -/
theorem entry?_moveTree_none (hsound : disk.Sound) (hsource : disk.entry? source ≠ some .directory)
    (hnone : disk.entry? other = none) (hother : other ≠ target) :
    entry? ((disk.drop target).moveTree source target) other = none := by
  have hroot : other ≠ [] := by
    rintro rfl
    cases hnone
  rw [entry?_eq_find? hroot, Option.map_eq_none_iff, List.find?_eq_none]
  intro new hnew heq
  obtain ⟨old, hold, rfl⟩ := List.mem_map.1 hnew
  obtain ⟨entry, hentry⟩ := exists_entry?_of_mem (List.mem_filter.1 hold).1
  have hmoved : moved source target old.1 = other := eq_of_beq heq
  by_cases hprefix : source <+: old.1
  · obtain ⟨below, hbelow⟩ := hprefix
    by_cases hempty : below = []
    · rw [hempty, List.append_nil] at hbelow
      rw [← hbelow, moved_self] at hmoved
      exact hother hmoved.symm
    · rw [← hbelow, hsound.entry?_below hsource hempty] at hentry
      cases hentry
  · rw [moved_outside hprefix] at hmoved
    rw [hmoved, hnone] at hentry
    cases hentry

/-- **Moving a file** on a sound disk, where no directory stands, lets it stand there and nowhere
else. -/
theorem entry?_moveTree_file (hsound : disk.Sound) (hsource : disk.entry? source = some entry)
    (hfile : entry ≠ .directory) (htarget : disk.entry? target ≠ some .directory)
    (hne : source ≠ target) (other : Location) :
    entry? ((disk.drop target).moveTree source target) other =
      if other = target then some entry
        else if other = source then none else disk.entry? other := by
  have hsourceFile : disk.entry? source ≠ some .directory := by
    rw [hsource]
    exact fun heq => hfile (Option.some.inj heq)
  have hsourceRoot := ne_nil_of_not_directory hsourceFile
  have htargetRoot := ne_nil_of_not_directory htarget
  -- Nothing stands below a place without a directory, so nothing but the file is moved.
  have hbelow : ∀ place, disk.entry? place ≠ some .directory → place <+: other → other ≠ place →
      disk.entry? other = none := by
    rintro place hplace ⟨below, rfl⟩ hproper
    refine hsound.entry?_below hplace ?_
    rintro rfl
    exact hproper (List.append_nil _)
  by_cases hisTarget : other = target
  · rw [if_pos hisTarget, hisTarget, entry?_moveTree_target hsourceRoot htargetRoot hne, hsource]
  rw [if_neg hisTarget]
  by_cases hisSource : other = source
  · subst hisSource
    rw [if_pos rfl]
    refine entry?_moveTree_source hsourceRoot (fun hprefix => ?_) disk
    rw [hbelow target htarget hprefix hisTarget] at hsource
    cases hsource
  rw [if_neg hisSource]
  by_cases houtside : source <+: other ∨ target <+: other
  · have hnone : disk.entry? other = none :=
      houtside.elim (fun h => hbelow source hsourceFile h hisSource)
        (fun h => hbelow target htarget h hisTarget)
    rw [hnone, entry?_moveTree_none hsound hsourceFile hnone hisTarget]
  · rw [not_or] at houtside
    exact entry?_moveTree_outside houtside.1 houtside.2 disk

/-- A disk stays sound when a file is moved into a directory. -/
theorem Sound.moveTree_file (hsound : disk.Sound) (hsource : disk.entry? source = some entry)
    (hfile : entry ≠ .directory) (htarget : disk.entry? target ≠ some .directory)
    (hne : source ≠ target)
    (hparent : ∃ above name, target = above ++ [name] ∧ disk.entry? above = some .directory) :
    ((disk.drop target).moveTree source target).Sound := by
  have hentries := entry?_moveTree_file hsound hsource hfile htarget hne
  refine hsound.of_new (fun place hplace => ?_) fun above name new hnew hnone => ?_
  · rw [hentries, if_neg, if_neg, hplace]
    · rintro rfl
      rw [hsource] at hplace
      exact hfile (Option.some.inj hplace)
    · rintro rfl
      exact htarget hplace
  · rw [hentries, hnone] at hnew
    split at hnew
    · next heq =>
      obtain ⟨above', name', rfl, habove⟩ := hparent
      obtain ⟨rfl, -⟩ := List.append_inj' heq rfl
      exact habove
    · split at hnew <;> cases hnew

end Disk

end HistoryExpansion
