import HistoryExpansion.Proofs.HistoryFile.Append

/-!
# After a rewrite

A rewrite that goes through leaves the disk settled, whatever stood there before: the file and the
temporary file have one place each for all rewrites to come, the latter with nothing in it, and no
directory is left to be made (`settled_of_persist`). A file that the path leads to then is the one
that was written. From then on every rewrite that goes through ends with the file in its place:
`Settled.findItself_of_persist`. Where no link and no device was in the way to begin with, the first
one does so too, and nothing comes to be in the way: `Unobstructed.of_persist`.

What makes this an argument is that a link may have stood at the temporary path or at the path
itself. A link that was moved leads to the file that was written through it, or in circles, and so
to no directory; no road to a directory leads across it.
-/

namespace HistoryExpansion.HistoryFile

open HistoryExpansion.Disk (Keeps Leads Sound)
open HistoryExpansion.Path (IsProper)

variable {path : String} {archive : Archive} {octets : Octets} {disk written left : Disk}
  {target temporary reached road : Location} {moved : Entry} {front : List String}
  {name other : String}

/-! ## Side by side -/

/-- A path and its temporary path name places side by side in one directory. -/
structure Beside (path : String) (disk : Disk) (target temporary : Location) (front : List String)
    (name other : String) (road : Location) : Prop where
  segments : Path.segments path = front ++ [name]
  temporarySegments : Path.segments (temporaryPath path) = front ++ [other]
  start : Disk.startFrom disk.here (temporaryPath path) = Disk.startFrom disk.here path
  proper : IsProper name
  temporaryProper : IsProper other
  leads : Leads disk true Disk.mostLinks (Disk.startFrom disk.here path) front road
  directory : disk.entry? road = some .directory
  target_eq : target = road ++ [name]
  temporary_eq : temporary = road ++ [other]

namespace Rewritten

variable (h : Rewritten path octets disk written left target temporary reached moved)

include h

theorem exists_beside (hsound : disk.Sound) :
    ∃ front name other road, Beside path disk target temporary front name other road := by
  obtain ⟨front, name, hsegments⟩ := Path.exists_segments path
  obtain ⟨hproper, road, hroad, hdirectory, hleads⟩ :=
    hsound.locateItself hsegments h.target_eq h.target_file
  obtain ⟨other, hother, -, -, habsolute⟩ :
      ∃ other, Path.segments (temporaryPath path) = front ++ [other] ∧ other ≠ name ∧
        (other = ".." ∨ IsProper other) ∧
        Path.isAbsolute (temporaryPath path) = Path.isAbsolute path :=
    Path.segments_temporary hsegments hproper
  obtain ⟨hotherProper, road', hroad', -, hleads'⟩ :=
    hsound.locateItself hother h.temporary_eq h.temporary_file
  have hstart : Disk.startFrom disk.here (temporaryPath path) = Disk.startFrom disk.here path := by
    rw [Disk.startFrom, habsolute, Disk.startFrom]
  rw [hstart] at hleads'
  obtain rfl := hleads.unique hleads'
  exact ⟨front, name, other, road, hsegments, hother, hstart, hproper, hotherProper, hleads,
    hdirectory, hroad, hroad'⟩

theorem keeps_written : Keeps disk written ∧ Keeps written disk := by
  rcases h.filled with ⟨-, rfl⟩ | ⟨-, rfl⟩
  · exact ⟨.refl _, .refl _⟩
  · exact Disk.keeps_fill h.reached_file (fun text =>
      (Disk.locateParts_eq_ok_iff.1 h.reached_eq).2.not_link (Path.segments_ne_nil _)) octets

/-- What is moved is no directory. -/
theorem moved_file : moved ≠ .directory := by
  rintro rfl
  exact h.temporary_file (h.keeps_written.2.directory _ h.moved_eq)

/-- A link that is moved was written through. -/
theorem reached_of_link (hbeside : Beside path disk target temporary front name other road)
    {text : String} (hlink : disk.entry? temporary = some (.link text)) {links : Nat}
    {place : Location}
    (hleads : Leads disk true links (Disk.startFrom road text) (Path.segments text) place) :
    place = reached := by
  have hreached := (Disk.locateParts_eq_ok_iff.1 h.reached_eq).2
  rw [hbeside.temporarySegments, hbeside.start] at hreached
  obtain ⟨middle, fewer, hmiddle, hlast⟩ := hreached.append
  obtain rfl := hmiddle.unique hbeside.leads
  cases hlast with
  | step hfollow hentry =>
    have hnext := Disk.follow_proper hbeside.temporaryProper hfollow
    rw [← hbeside.temporary_eq] at hnext
    exact absurd (hnext ▸ hlink) (hentry text)
  | along hfollow hentry _ hrest =>
    have hnext := Disk.follow_proper hbeside.temporaryProper hfollow
    rw [← hbeside.temporary_eq] at hnext
    rw [hnext, hlink] at hentry
    cases hentry
    rw [List.append_nil] at hrest
    exact hleads.unique hrest
  | stop _ _ hthrough => cases hthrough

/-- A link that is moved leads to no directory. -/
theorem astray (hbeside : Beside path disk target temporary front name other road) {text : String}
    (hlink : disk.entry? temporary = some (.link text)) {links : Nat} {place : Location}
    (hleads : Leads disk true links (Disk.startFrom road text) (Path.segments text) place) :
    disk.entry? place ≠ some .directory := by
  rw [h.reached_of_link hbeside hlink hleads]
  exact h.reached_file

/-- A directory that is left was there before. -/
theorem directory_back {place : Location} (hplace : left.entry? place = some .directory) :
    disk.entry? place = some .directory := by
  rw [h.entries] at hplace
  split at hplace
  · exact absurd (Option.some.inj hplace) h.moved_file
  · split at hplace
    · cases hplace
    · exact h.keeps_written.2.directory _ hplace

/-- A directory that was there is left. -/
theorem directory_left {place : Location} (hplace : disk.entry? place = some .directory) :
    left.entry? place = some .directory := by
  rw [h.entries, if_neg, if_neg, h.keeps_written.1.directory _ hplace]
  · rintro rfl
    exact h.temporary_file hplace
  · rintro rfl
    exact h.target_file hplace

/-- Nothing is lost but the temporary file. -/
theorem eq_temporary_of_none {place : Location} {entry : Entry}
    (hentry : disk.entry? place = some entry) (hlost : left.entry? place = none) :
    place = temporary := by
  rw [h.entries] at hlost
  split at hlost
  · cases hlost
  · split at hlost
    · next htemporary => exact htemporary
    · rcases h.filled with ⟨-, hsame⟩ | ⟨-, hfilled⟩
      · rw [hsame, hentry] at hlost
        cases hlost
      · rw [hfilled, Disk.entry?_fill (Disk.ne_nil_of_not_directory h.reached_file)] at hlost
        split at hlost
        · cases hlost
        · rw [hentry] at hlost
          cases hlost

/-- **The roads left** by a rewrite were there before it. -/
theorem carry_back (hbeside : Beside path disk target temporary front name other road)
    (hleft : left.Sound) {links : Nat} {parts : List String} {place goal : Location}
    (hleads : Leads left true links place parts goal)
    (hgoal : left.entry? goal = some .directory) : Leads disk true links place parts goal := by
  obtain ⟨-, hkept⟩ := h.keeps_written
  refine hleads.carry_of hgoal (fun _ => h.directory_back)
    fun place part next text hnext hentry => ?_
  have hnextFile : left.entry? next ≠ some .directory := by
    rw [hentry]
    nofun
  obtain ⟨-, hconcat⟩ := Disk.follow_eq_concat hleft hnextFile hnext
  rw [h.entries] at hentry
  split at hentry
  · next htarget =>
    obtain rfl : road = place :=
      (List.append_inj' (hbeside.target_eq.symm.trans (htarget.symm.trans hconcat)) rfl).1
    have hlink := h.moved_eq
    rw [Option.some.inj hentry] at hlink
    exact .inr fun _ _ => h.astray hbeside (hkept.link _ _ hlink)
  · split at hentry
    · cases hentry
    · exact .inl (hkept.link _ _ hentry)

end Rewritten

/-! ## Settled disks -/

/-- A disk on which a rewrite that goes through is sure to end with the file in its place. -/
structure Settled (path : String) (disk : Disk) (front : List String) (name other : String)
    (road : Location) : Prop where
  sound : disk.Sound
  segments : Path.segments path = front ++ [name]
  temporarySegments : Path.segments (temporaryPath path) = front ++ [other]
  /-- The parts before the name lead to one directory at most. -/
  only : ∀ links place,
    Leads disk true links (Disk.startFrom disk.here path) front place →
    disk.entry? place = some .directory → place = road
  /-- There is no temporary file. -/
  temporary : disk.entry? (road ++ [other]) = none
  /-- A link at the path leads to no directory. -/
  astray : ∀ text, disk.entry? (road ++ [name]) = some (.link text) → ∀ links place,
    Leads disk true links (Disk.startFrom road text) (Path.segments text) place →
    disk.entry? place ≠ some .directory
  /-- No directory is left to be made. -/
  prepared : prepared path disk = disk

/-- Where the directories above a path could be made, the last of them is there. -/
theorem holdsDirectory_prepared {parent : String} (h : (makeParent path disk).1 = .ok ())
    (hparent : Path.parent? path = some parent) (hparts : Path.parts parent ≠ []) :
    (prepared path disk).holdsDirectory
      (Path.ofParts (Path.isAbsolute parent) (Path.parts parent)) = true := by
  have hne : parent ≠ "" := by
    rintro rfl
    exact hparts rfl
  rw [makeParent, hparent] at h
  simp only [if_neg hne, Disk.makeDirectories] at h
  rw [HistoryFile.prepared, makeParent, hparent]
  simp only [if_neg hne, Disk.makeDirectories]
  split at h
  · cases h
  · next hnul =>
    rw [if_neg hnul]
    rcases hmade : Disk.makeDirectoriesAt (Path.isAbsolute parent) (Path.parts parent).reverse
      disk with ⟨result, made⟩
    rw [hmade] at h
    obtain rfl : result = .ok () := h
    have hholds := Disk.holdsDirectory_makeDirectoriesAt (List.reverse_eq_nil_iff.not.2 hparts)
      (fun part hpart => Path.mem_parts (List.mem_reverse.1 hpart)) hmade
    rw [List.reverse_reverse] at hholds
    exact hholds

/-- Where every path on the way leads to something or nowhere, no directory is made above a path. -/
theorem prepared_eq_self
    (h : ∀ parent front, Path.parent? path = some parent → front ≠ [] →
      front <+: Path.parts parent → ∀ place,
      disk.locateNew (Path.ofParts (Path.isAbsolute parent) front) = .ok place →
      disk.entry? place ≠ none) : prepared path disk = disk := by
  rw [prepared, makeParent]
  split
  · rfl
  · next parent hparent =>
    split
    · rfl
    · unfold Disk.makeDirectories
      split
      · rfl
      · refine Disk.makeDirectoriesAt_eq_self fun front hfront hprefix => ?_
        rw [List.reverse_reverse] at hprefix
        exact h parent front hparent hfront hprefix

namespace Rewritten

variable (h : Rewritten path octets disk written left target temporary reached moved)

include h

/-- Nothing on the way to a directory is lost. -/
theorem ne_none_of_leads (hbeside : Beside path disk target temporary front name other road)
    {links : Nat} {middle goal : Location} {part : String} {rest : List String}
    (hproper : IsProper part) (hleads : Leads disk true links middle (part :: rest) goal)
    (hdirectory : disk.entry? goal = some .directory) :
    left.entry? (middle ++ [part]) ≠ none := by
  intro hlost
  cases hleads with
  | step hfollow _ hbehind =>
    have hnext := hbehind.start_directory hdirectory
    rw [Disk.follow_proper hproper hfollow] at hnext
    rw [h.eq_temporary_of_none hnext hlost] at hnext
    exact h.temporary_file hnext
  | along hfollow hentry _ hbehind =>
    rw [Disk.follow_proper hproper hfollow] at hentry
    have htemporary := h.eq_temporary_of_none hentry hlost
    obtain rfl : road = middle :=
      (List.append_inj' (hbeside.temporary_eq.symm.trans htemporary.symm) rfl).1
    rw [htemporary] at hentry
    obtain ⟨through, fewer, hthrough, hbehind⟩ := hbehind.append
    exact h.astray hbeside hentry hthrough (hbehind.start_directory hdirectory)
  | stop _ _ hthrough => cases hthrough

/-- No directory above the path is missing after a rewrite. -/
theorem prepared_left (hbeside : Beside path disk target temporary front name other road)
    (hleft : left.Sound)
    (hholds : ∀ parent, Path.parent? path = some parent → Path.parts parent ≠ [] →
      disk.holdsDirectory (Path.ofParts (Path.isAbsolute parent) (Path.parts parent)) = true) :
    prepared path left = left := by
  refine prepared_eq_self fun parent shorter hparent hshorter hprefix place hplace hnone => ?_
  obtain ⟨rest, hrest⟩ := hprefix
  have hne : Path.parts parent ≠ [] := by
    rintro hnil
    rw [hnil] at hrest
    exact hshorter (List.append_eq_nil_iff.1 hrest).1
  have hparts : ∀ part ∈ Path.parts parent, part ≠ "" ∧ '/' ∉ part.toList :=
    fun _ => Path.mem_parts
  have hshorterParts : ∀ part ∈ shorter, part ≠ "" ∧ '/' ∉ part.toList := fun part hpart =>
    hparts part (hrest ▸ List.mem_append_left rest hpart)
  obtain ⟨above, last, rfl⟩ : ∃ above last, shorter = above ++ [last] :=
    ⟨_, _, (List.dropLast_concat_getLast hshorter).symm⟩
  have hlast : last ≠ "" := (hshorterParts last (List.mem_append_right _ List.mem_cons_self)).1
  -- On the disk that is left, the shorter path leads to a name in a directory.
  have hsegments : Path.segments (Path.ofParts (Path.isAbsolute parent) (above ++ [last])) =
      ((if Path.isAbsolute parent then [""] else []) ++ above) ++ [last] := by
    rw [Path.segments_ofParts hshorter fun part hpart => (hshorterParts part hpart).2,
      List.append_assoc]
  rw [Disk.locateNew_eq_locateItself hsegments hlast] at hplace
  have hplaceFile : left.entry? place ≠ some .directory := by
    rw [hnone]
    nofun
  obtain ⟨hproper, middle, rfl, hmiddle, hleads⟩ :=
    hleft.locateItself hsegments hplace hplaceFile
  have hback := h.carry_back hbeside hleft hleads hmiddle
  -- Before, it was on the way to a directory, and nothing on the way was lost.
  obtain ⟨goal, hdirectory, hwhole⟩ :=
    Disk.leads_of_holdsDirectory hne hparts (hholds parent hparent hne)
  rw [Disk.startFrom_ofParts hne hparts hshorter hshorterParts, ← h.here, ← hrest,
    ← List.append_assoc, ← List.append_assoc, List.append_assoc, List.singleton_append] at hwhole
  obtain ⟨middle', fewer, hmiddle', hbehind⟩ := hwhole.append
  obtain rfl := hmiddle'.unique hback
  exact h.ne_none_of_leads hbeside hproper hbehind hdirectory hnone

/-- A file at the place that was written to is the one that was written. -/
theorem octets_of_reached {octets' : Octets}
    (hentry : written.entry? reached = some (.file octets')) : octets' = octets := by
  rcases h.filled with ⟨⟨device, hdevice⟩, hsame⟩ | ⟨-, hfilled⟩
  · rw [hsame, hdevice] at hentry
    cases hentry
  · rw [hfilled, Disk.entry?_fill (Disk.ne_nil_of_not_directory h.reached_file), if_pos rfl]
      at hentry
    cases hentry
    rfl

/-- A file that is moved is the one that was written. -/
theorem octets_of_moved {octets' : Octets} (hmoved : moved = .file octets') : octets' = octets := by
  subst hmoved
  have hlink : ∀ text, disk.entry? temporary ≠ some (.link text) := fun text hentry => by
    have hmoved := h.keeps_written.1.link _ _ hentry
    rw [h.moved_eq] at hmoved
    cases hmoved
  obtain rfl : reached = temporary :=
    Except.ok.inj (h.reached_eq.symm.trans (Disk.locate_of_itself h.temporary_eq hlink))
  exact h.octets_of_reached h.moved_eq

/-- A file that a moved link leads to is the one that was written. -/
theorem octets_of_link (hbeside : Beside path disk target temporary front name other road)
    (hleft : left.Sound) {text : String} (hmoved : moved = .link text) {links : Nat}
    {place : Location} {octets' : Octets}
    (hleads : Leads left true links (Disk.startFrom road text) (Path.segments text) place)
    (hentry : left.entry? place = some (.file octets')) : octets' = octets := by
  subst hmoved
  have hwritten : written.entry? place = some (.file octets') := by
    rw [h.entries] at hentry
    split at hentry
    · cases hentry
    · split at hentry
      · cases hentry
      · exact hentry
  have htarget : left.entry? (road ++ [name]) = some (.link text) := by
    rw [← hbeside.target_eq, h.entries, if_pos rfl]
  have hplaceFile : left.entry? place ≠ some .directory := by
    rw [hentry]
    nofun
  obtain ⟨links, hback⟩ := hleads.carry_link hleft htarget hplaceFile
    (fun text hlink => by
      rw [h.keeps_written.1.link _ _ hlink] at hwritten
      cases hwritten)
    (fun _ => h.directory_back) fun _ _ next text _ hlink hne => by
      rw [h.entries, if_neg (hbeside.target_eq ▸ hne)] at hlink
      split at hlink
      · cases hlink
      · exact h.keeps_written.2.link _ _ hlink
  obtain rfl := h.reached_of_link hbeside (h.keeps_written.2.link _ _ h.moved_eq) hback
  exact h.octets_of_reached hwritten

/-- **A file that the path leads to** after a rewrite is the one that was written. -/
theorem octets_eq (hbeside : Beside path disk target temporary front name other road)
    (hleft : left.Sound) {place : Location} {octets' : Octets}
    (hplace : left.locate path = .ok place) (hentry : left.entry? place = some (.file octets')) :
    octets' = octets := by
  have hleads := (Disk.locateParts_eq_ok_iff.1 hplace).2
  rw [hbeside.segments, h.here] at hleads
  obtain ⟨middle, fewer, hmiddle, hlast⟩ := hleads.append
  obtain rfl := (h.carry_back hbeside hleft hmiddle hlast.start_of_cons).unique hbeside.leads
  have htarget : left.entry? target = some moved := by
    rw [h.entries, if_pos rfl]
  cases hlast with
  | step hfollow _ hrest =>
    cases hrest
    rw [Disk.follow_proper hbeside.proper hfollow, ← hbeside.target_eq, htarget] at hentry
    exact h.octets_of_moved (Option.some.inj hentry)
  | along hfollow hlink _ hrest =>
    rw [Disk.follow_proper hbeside.proper hfollow, ← hbeside.target_eq, htarget] at hlink
    rw [List.append_nil] at hrest
    exact h.octets_of_link hbeside hleft (Option.some.inj hlink) hrest hentry
  | stop _ _ hthrough => cases hthrough

end Rewritten

/-- The directories above the path are made before a rewrite goes through. -/
theorem makeParent_of_persist (h : persist ⟨path, archive⟩ disk = (.ok (), left)) :
    (makeParent path disk).1 = .ok () := by
  unfold persist at h
  split at h
  · cases h
  · next hmade => rw [hmade]

/-- **A rewrite settles a disk**, and a file that stands at the path afterwards is the one that was
written. -/
theorem settled_of_persist (hsound : disk.Sound)
    (h : persist ⟨path, archive⟩ disk = (.ok (), left)) :
    ∃ front name other road, Settled path left front name other road ∧
      ∀ octets, left.find path = .ok (.file octets) → octets = content archive := by
  obtain ⟨written, target, temporary, reached, moved, hleft, hrewritten⟩ := persist_ok hsound h
  obtain ⟨front, name, other, road, hbeside⟩ :=
    hrewritten.exists_beside (sound_prepared hsound path)
  have honly : ∀ links place,
      Leads left true links (Disk.startFrom left.here path) front place →
      left.entry? place = some .directory → place = road := by
    intro links place hleads hplace
    rw [hrewritten.here] at hleads
    exact (hrewritten.carry_back hbeside hleft hleads hplace).unique hbeside.leads
  have htarget : left.entry? target = some moved := by
    rw [hrewritten.entries, if_pos rfl]
  have hsettled : Settled path left front name other road :=
    { sound := hleft
      segments := hbeside.segments
      temporarySegments := hbeside.temporarySegments
      only := honly
      temporary := by
        rw [← hbeside.temporary_eq, hrewritten.entries, if_neg hrewritten.apart, if_pos rfl]
      astray := by
        intro text hlink links place hleads hplace
        rw [← hbeside.target_eq, htarget] at hlink
        have hentry := hrewritten.moved_eq
        rw [Option.some.inj hlink] at hentry
        exact hrewritten.astray hbeside (hrewritten.keeps_written.2.link _ _ hentry)
          (hrewritten.carry_back hbeside hleft hleads hplace) (hrewritten.directory_back hplace)
      prepared := hrewritten.prepared_left hbeside hleft fun parent hparent hparts =>
        holdsDirectory_prepared (makeParent_of_persist h) hparent hparts }
  refine ⟨front, name, other, road, hsettled, fun octets hfound => ?_⟩
  obtain ⟨place, hplace, hentry⟩ := Disk.find_eq_ok_iff.1 hfound
  exact hrewritten.octets_eq hbeside hleft hplace hentry

namespace Settled

section

variable (hsettled : Settled path disk front name other road)
  (h : Rewritten path octets disk written left target temporary reached moved)

include hsettled h

theorem beside : Beside path disk target temporary front name other road := by
  obtain ⟨front', name', other', road', hbeside⟩ := h.exists_beside hsettled.sound
  obtain ⟨rfl, hname⟩ := List.append_inj' (hsettled.segments.symm.trans hbeside.segments) rfl
  obtain rfl := List.singleton_inj.1 hname
  obtain ⟨-, hother⟩ := List.append_inj'
    (hsettled.temporarySegments.symm.trans hbeside.temporarySegments) rfl
  obtain rfl := List.singleton_inj.1 hother
  obtain rfl := hsettled.only _ _ hbeside.leads hbeside.directory
  exact hbeside

theorem entry?_eq (place : Location) :
    left.entry? place = if place = target then some (.file octets)
      else if place = temporary then none else disk.entry? place := by
  refine h.entry?_eq (fun entry hfound => ?_) place
  obtain ⟨place, hplace, hentry⟩ := Disk.findItself_eq_ok_iff.1 hfound
  obtain rfl := Except.ok.inj (hplace.symm.trans h.temporary_eq)
  rw [(hsettled.beside h).temporary_eq, hsettled.temporary] at hentry
  cases hentry

/-- No link is left that was not there. -/
theorem keeps_back : Keeps left disk := by
  refine ⟨h.here.symm, fun _ => h.directory_back, fun place text hplace => ?_⟩
  rw [hsettled.entry?_eq h] at hplace
  split at hplace
  · cases hplace
  · split at hplace
    · cases hplace
    · exact hplace

/-- The road to the file is left, also if the file has taken the place of a link. -/
theorem leads_left :
    Leads left true Disk.mostLinks (Disk.startFrom disk.here path) front road := by
  have hbeside := hsettled.beside h
  refine hbeside.leads.carry_of hbeside.directory (fun _ => h.directory_left)
    fun place part next text hnext hentry => ?_
  by_cases htarget : next = target
  · refine .inr fun links goal hgoal hopen => ?_
    have hfile : disk.entry? next ≠ some .directory := by
      rw [hentry]
      nofun
    obtain ⟨-, hconcat⟩ := Disk.follow_eq_concat hsettled.sound hfile hnext
    obtain rfl : road = place :=
      (List.append_inj' (hbeside.target_eq.symm.trans (htarget.symm.trans hconcat)) rfl).1
    rw [htarget, hbeside.target_eq] at hentry
    have hgoalOpen := h.directory_back hopen
    refine hsettled.astray text hentry _ _
      (hgoal.carry (hsettled.keeps_back h) fun text hlink => ?_) hgoalOpen
    rw [hgoalOpen] at hlink
    cases hlink
  · refine .inl ?_
    rw [hsettled.entry?_eq h, if_neg htarget, if_neg, hentry]
    rintro rfl
    rw [hbeside.temporary_eq, hsettled.temporary] at hentry
    cases hentry

end

/-- **On a settled disk**, a rewrite that goes through ends with the file in its place. -/
theorem findItself_of_persist (hsettled : Settled path disk front name other road)
    (h : persist ⟨path, archive⟩ disk = (.ok (), left)) :
    left.findItself path = .ok (.file (content archive)) := by
  obtain ⟨written, target, temporary, reached, moved, -, hrewritten⟩ :=
    persist_ok hsettled.sound h
  rw [hsettled.prepared] at hrewritten
  have hbeside := hsettled.beside hrewritten
  have hleads := hsettled.leads_left hrewritten
  obtain ⟨haskable, middle, hmiddle, hfollow⟩ :=
    (Disk.locateItself_eq_ok_iff hbeside.segments).1 hrewritten.target_eq
  obtain rfl := hmiddle.unique hbeside.leads
  refine Disk.findItself_eq_ok_iff.2 ⟨target, (Disk.locateItself_eq_ok_iff hbeside.segments).2
    ⟨haskable, middle, hrewritten.here ▸ hleads, ?_⟩, ?_⟩
  · rw [← hfollow,
      Disk.follow_congr (hrewritten.directory_left hbeside.directory) hbeside.directory]
  · rw [hsettled.entry?_eq hrewritten, if_pos rfl]

end Settled

/-! ## Nothing in the way -/

/-- Once the directories above a path are made, no link stands at the path and neither a link nor a
device at its temporary path. -/
structure Unobstructed (path : String) (disk : Disk) : Prop where
  sound : disk.Sound
  temporary : PlainTemporary path (HistoryFile.prepared path disk)
  unlinked : ∀ text, (HistoryFile.prepared path disk).findItself path ≠ .ok (.link text)

/-- **Where nothing is in the way** of a rewrite that goes through, what was written is read at the
path afterwards, and nothing is in the way of the next one. -/
theorem Unobstructed.of_persist (hfree : Unobstructed path disk)
    (h : persist ⟨path, archive⟩ disk = (.ok (), left)) :
    Unobstructed path left ∧ left.read path = .ok (content archive) := by
  obtain ⟨hfile, hgone⟩ := findItself_of_persist hfree.sound hfree.temporary hfree.unlinked h
  obtain ⟨front, name, other, road, hsettled, -⟩ := settled_of_persist hfree.sound h
  -- The next rewrite finds all directories made, the file at the path and no temporary file.
  refine ⟨⟨hsettled.sound, fun entry hentry => ?_, fun text hlink => ?_⟩,
    Disk.read_of_findItself hfile rfl⟩
  · rw [hsettled.prepared, hgone] at hentry
    cases hentry
  · rw [hsettled.prepared, hfile] at hlink
    cases hlink

end HistoryExpansion.HistoryFile
