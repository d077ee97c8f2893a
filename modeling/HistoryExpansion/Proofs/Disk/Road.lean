import HistoryExpansion.Proofs.Disk

/-!
# Roads

`Leads` says by rules how a path is followed part by part and link by link; it holds exactly where
`followLinks` succeeds (`followLinks_eq_ok_iff`). So a path is taken apart into the road to its last
directory and the last part (`leads_concat`), and where a road ends does not depend on how many
links are allowed (`Leads.unique`). A disk that has the directories and the links of another one has
its roads as well: `Leads.carry`.
-/

namespace HistoryExpansion.Disk

open HistoryExpansion.Path (IsProper)

variable {disk left : Disk} {place next target other : Location} {part name text path : String}
  {parts front back : List String} {through : Bool} {links more : Nat}

/-! ## Sound disks -/

/-- Whatever stands on a disk stands in a directory. -/
def Sound (disk : Disk) : Prop :=
  ∀ place name entry, disk.entry? (place ++ [name]) = some entry →
    disk.entry? place = some .directory

namespace Sound

theorem dropLast (h : disk.Sound) (hplace : disk.entry? place = some .directory) :
    disk.entry? place.dropLast = some .directory := by
  rcases List.eq_nil_or_concat place with rfl | ⟨above, name, rfl⟩
  · exact hplace
  · rw [List.concat_eq_append] at hplace ⊢
    rw [List.dropLast_concat]
    exact h above name .directory hplace

/-- Nothing stands below what is no directory. -/
theorem entry?_below (h : disk.Sound) (hplace : disk.entry? place ≠ some .directory)
    {below : List String} (hbelow : below ≠ []) : disk.entry? (place ++ below) = none := by
  induction below generalizing place with
  | nil => exact absurd rfl hbelow
  | cons first below ih =>
    have hfirst : disk.entry? (place ++ [first]) = none :=
      Option.eq_none_iff_forall_ne_some.2 fun entry hentry => hplace (h _ _ entry hentry)
    by_cases hrest : below = []
    · rw [hrest]
      exact hfirst
    · rw [List.append_cons]
      exact ih (by rw [hfirst]; nofun) hrest

/-- A disk that keeps the directories of a sound one is sound if what is new on it stands in
directories. -/
theorem of_new (h : disk.Sound)
    (hkept : ∀ place, disk.entry? place = some .directory → left.entry? place = some .directory)
    (hnew : ∀ place name entry, left.entry? (place ++ [name]) = some entry →
      disk.entry? (place ++ [name]) = none → disk.entry? place = some .directory) :
    left.Sound := by
  intro place name entry hentry
  refine hkept place ?_
  cases hold : disk.entry? (place ++ [name]) with
  | none => exact hnew place name entry hentry hold
  | some old => exact h place name old hold

end Sound

/-! ## One part -/

theorem follow_directory (h : disk.follow place part = .ok next) :
    disk.entry? place = some .directory := by
  unfold follow at h
  split at h
  · cases h
  · assumption
  · cases h

/-- What a part leads to is decided by the part alone, once it is met in a directory. -/
theorem follow_congr (hdisk : disk.entry? place = some .directory)
    (hleft : left.entry? place = some .directory) (part : String) :
    disk.follow place part = left.follow place part := by
  rw [follow, follow, hdisk, hleft]

theorem follow_proper (hpart : IsProper part) (h : disk.follow place part = .ok next) :
    next = place ++ [part] := by
  unfold follow at h
  split at h
  · cases h
  · rw [if_neg (not_or.2 ⟨hpart.nonempty, hpart.ne_dot⟩), if_neg hpart.ne_dots] at h
    split at h
    · cases h
    · exact (Except.ok.inj h).symm
  · cases h

/-- A part that is no name leads to a directory. -/
theorem follow_improper (hsound : disk.Sound) (hpart : ¬IsProper part)
    (h : disk.follow place part = .ok next) : disk.entry? next = some .directory := by
  have hplace := follow_directory h
  unfold follow at h
  rw [hplace] at h
  simp only at h
  split at h
  · cases h
    exact hplace
  · next hstay =>
    split at h
    · cases h
      exact hsound.dropLast hplace
    · next hback =>
      rw [not_or] at hstay
      exact absurd ⟨hstay.1, hstay.2, hback⟩ hpart

/-- What is no directory has a name in a directory. -/
theorem follow_eq_concat (hsound : disk.Sound) (hnext : disk.entry? next ≠ some .directory)
    (h : disk.follow place part = .ok next) : IsProper part ∧ next = place ++ [part] := by
  by_cases hpart : IsProper part
  · exact ⟨hpart, follow_proper hpart h⟩
  · exact absurd (follow_improper hsound hpart h) hnext

/-! ## Whole paths -/

/-- The parts of a path lead from one place to another, along at most so many links. -/
inductive Leads (disk : Disk) (through : Bool) :
    (links : Nat) → Location → List String → Location → Prop where
  /-- No part is left. -/
  | done {links : Nat} {place : Location} : Leads disk through links place [] place
  /-- The next part leads on to what is no link. -/
  | step {links : Nat} {place next target : Location} {part : String} {parts : List String} :
      disk.follow place part = .ok next → (∀ text, disk.entry? next ≠ some (.link text)) →
      Leads disk through links next parts target →
      Leads disk through links place (part :: parts) target
  /-- The next part leads to a link, which is followed. -/
  | along {links : Nat} {place next target : Location} {part text : String}
      {parts : List String} :
      disk.follow place part = .ok next → disk.entry? next = some (.link text) →
      (parts ≠ [] ∨ through = true) →
      Leads disk through links (startFrom place text) (Path.segments text ++ parts) target →
      Leads disk through (links + 1) place (part :: parts) target
  /-- The last part leads to a link, which is itself meant. -/
  | stop {links : Nat} {place next : Location} {part text : String} :
      disk.follow place part = .ok next → disk.entry? next = some (.link text) →
      through = false → Leads disk through links place [part] next

theorem leads_of_followAll {along : Location → List String → Except DiskError Location}
    (halong : ∀ place parts, along place parts = .ok target →
      ∃ fewer, links = fewer + 1 ∧ Leads disk through fewer place parts target)
    (h : disk.followAll through along place parts = .ok target) :
    Leads disk through links place parts target := by
  induction parts generalizing place with
  | nil =>
    cases h
    exact .done
  | cons part parts ih =>
    unfold followAll at h
    split at h
    · cases h
    · next next hfollow =>
      split at h
      · next text hentry =>
        split at h
        · next hstop =>
          rw [Bool.and_eq_true, List.isEmpty_iff, Bool.not_eq_true'] at hstop
          obtain ⟨rfl, hthrough⟩ := hstop
          cases h
          exact .stop hfollow hentry hthrough
        · next hgo =>
          rw [Bool.and_eq_true, List.isEmpty_iff, Bool.not_eq_true', Decidable.not_and_iff_or_not,
            Bool.not_eq_false] at hgo
          obtain ⟨fewer, rfl, hleads⟩ := halong _ _ h
          exact .along hfollow hentry hgo hleads
      · next hentry => exact .step hfollow hentry (ih h)

theorem leads_of_followLinks (h : disk.followLinks through links place parts = .ok target) :
    Leads disk through links place parts target := by
  induction links generalizing place parts with
  | zero =>
    refine leads_of_followAll (fun place parts heq => ?_) h
    cases heq
  | succ links ih => exact leads_of_followAll (fun _ _ h => ⟨links, rfl, ih h⟩) h

theorem followLinks_of_leads (h : Leads disk through links place parts target) :
    disk.followLinks through links place parts = .ok target := by
  induction h with
  | @done links place => cases links <;> rfl
  | @step links place next target part parts hfollow hentry _ ih =>
    cases links <;>
    · rw [followLinks, followAll, hfollow]
      simp only
      exact ih
  | @along links place next target part text parts hfollow hentry hgo _ ih =>
    have hmore : (parts.isEmpty && !through) = false := by
      rcases hgo with hgo | rfl
      · rw [List.isEmpty_eq_false_iff.2 hgo]
        rfl
      · exact Bool.and_false _
    rw [followLinks, followAll, hfollow]
    simp only [hentry, hmore]
    exact ih
  | @stop links place next part text hfollow hentry hthrough =>
    subst hthrough
    cases links <;>
    · rw [followLinks, followAll, hfollow]
      simp only [hentry]
      rfl

/-- **Following a path** succeeds exactly where the rules lead. -/
theorem followLinks_eq_ok_iff : disk.followLinks through links place parts = .ok target ↔
    Leads disk through links place parts target :=
  ⟨leads_of_followLinks, followLinks_of_leads⟩

namespace Leads

/-- A road that can be followed along so many links can be followed along more. -/
theorem mono (h : Leads disk through links place parts target) (hle : links ≤ more) :
    Leads disk through more place parts target := by
  induction h generalizing more with
  | done => exact .done
  | step hfollow hentry _ ih => exact .step hfollow hentry (ih hle)
  | along hfollow hentry hgo _ ih =>
    obtain ⟨fewer, rfl⟩ := Nat.exists_eq_add_of_le' (Nat.le_of_add_left_le hle)
    exact .along hfollow hentry hgo (ih (by omega))
  | stop hfollow hentry hthrough => exact .stop hfollow hentry hthrough

/-- A road has one end, however many links are allowed. -/
theorem unique (h : Leads disk through links place parts target)
    (h' : Leads disk through more place parts other) : target = other := by
  have hlong := followLinks_of_leads (h.mono (Nat.le_max_left links more))
  have hlong' := followLinks_of_leads (h'.mono (Nat.le_max_right links more))
  exact Except.ok.inj (hlong.symm.trans hlong')

/-- A road with a part left starts at a directory. -/
theorem start_of_cons (h : Leads disk through links place (part :: parts) target) :
    disk.entry? place = some .directory := by
  cases h with
  | step hfollow => exact follow_directory hfollow
  | along hfollow => exact follow_directory hfollow
  | stop hfollow => exact follow_directory hfollow

/-- A road that goes anywhere starts at a directory. -/
theorem start (h : Leads disk through links place parts target) :
    place = target ∨ disk.entry? place = some .directory := by
  cases parts with
  | nil =>
    cases h
    exact .inl rfl
  | cons part parts => exact .inr h.start_of_cons

theorem start_directory (h : Leads disk through links place parts target)
    (htarget : disk.entry? target = some .directory) : disk.entry? place = some .directory := by
  rcases h.start with rfl | hplace
  · exact htarget
  · exact hplace

/-- A road ends with a part that is followed from a directory. -/
theorem exists_follow (h : Leads disk through links place parts target) (hparts : parts ≠ []) :
    ∃ above part, disk.follow above part = .ok target := by
  induction h with
  | done => exact absurd rfl hparts
  | @step links place next target part parts hfollow _ hrest ih =>
    cases hrest with
    | done => exact ⟨place, part, hfollow⟩
    | _ => exact ih (List.cons_ne_nil _ _)
  | along _ _ _ _ ih =>
    exact ih fun hnil => Path.segments_ne_nil _ (List.append_eq_nil_iff.1 hnil).1
  | @stop links place next part text hfollow => exact ⟨place, part, hfollow⟩

/-- No link is left at the end of a road through all links. -/
theorem not_link (h : Leads disk true links place parts target) (hparts : parts ≠ []) :
    disk.entry? target ≠ some (.link text) := by
  induction h with
  | done => exact absurd rfl hparts
  | step hfollow hentry hrest ih =>
    cases hrest with
    | done => exact hentry text
    | _ => exact ih (List.cons_ne_nil _ _)
  | along _ _ _ _ ih =>
    exact ih fun hnil => Path.segments_ne_nil _ (List.append_eq_nil_iff.1 hnil).1
  | stop _ _ hthrough => cases hthrough

/-- A road through all links is one piece after the other. -/
theorem append (h : Leads disk true links place (front ++ back) target) :
    ∃ middle fewer, Leads disk true links place front middle ∧
      Leads disk true fewer middle back target := by
  generalize hparts : front ++ back = parts at h
  induction h generalizing front with
  | @done links place =>
    obtain ⟨rfl, rfl⟩ := List.append_eq_nil_iff.1 hparts
    exact ⟨place, links, .done, .done⟩
  | @step links place next target part parts hfollow hentry hrest ih =>
    cases front with
    | nil =>
      rw [List.nil_append] at hparts
      exact ⟨place, links, .done, hparts ▸ .step hfollow hentry hrest⟩
    | cons first front =>
      obtain ⟨rfl, rfl⟩ := List.cons.inj hparts
      obtain ⟨middle, fewer, hfront, hback⟩ := ih rfl
      exact ⟨middle, fewer, .step hfollow hentry hfront, hback⟩
  | @along links place next target part text parts hfollow hentry hgo hrest ih =>
    cases front with
    | nil =>
      rw [List.nil_append] at hparts
      exact ⟨place, links + 1, .done, hparts ▸ .along hfollow hentry hgo hrest⟩
    | cons first front =>
      obtain ⟨rfl, rfl⟩ := List.cons.inj hparts
      obtain ⟨middle, fewer, hfront, hback⟩ := ih (List.append_assoc _ _ _)
      exact ⟨middle, fewer, .along hfollow hentry (.inr rfl) hfront, hback⟩
  | stop _ _ hthrough => cases hthrough

/-- A link that a road ends in is followed or not; every other road is the same either way. -/
theorem to_through (h : Leads disk false links place parts target)
    (htarget : ∀ text, disk.entry? target ≠ some (.link text)) :
    Leads disk true links place parts target := by
  induction h with
  | done => exact .done
  | step hfollow hentry _ ih => exact .step hfollow hentry (ih htarget)
  | along hfollow hentry _ _ ih => exact .along hfollow hentry (.inr rfl) (ih htarget)
  | stop _ hentry => exact absurd hentry (htarget _)

/-- Where a road through all links ends, the same path names something. -/
theorem exists_itself (h : Leads disk true links place parts target) :
    ∃ place', Leads disk false links place parts place' := by
  induction h with
  | done => exact ⟨_, .done⟩
  | step hfollow hentry _ ih =>
    obtain ⟨place', hplace'⟩ := ih
    exact ⟨place', .step hfollow hentry hplace'⟩
  | @along links place next target part text parts hfollow hentry _ _ ih =>
    by_cases hparts : parts = []
    · exact ⟨next, hparts ▸ .stop hfollow hentry rfl⟩
    · obtain ⟨place', hplace'⟩ := ih
      exact ⟨place', .along hfollow hentry (.inl hparts) hplace'⟩
  | stop _ _ hthrough => cases hthrough

/-- What a path names is found from the end of the road to its last part. -/
theorem road (h : Leads disk false links place (front ++ [name]) target) :
    ∃ middle, Leads disk true links place front middle ∧ disk.follow middle name = .ok target := by
  generalize hparts : front ++ [name] = parts at h
  induction h generalizing front with
  | done => exact absurd hparts (List.concat_ne_nil _ _)
  | @step links place next target part parts hfollow hentry hrest ih =>
    cases front with
    | nil =>
      obtain ⟨rfl, rfl⟩ := List.cons.inj hparts
      cases hrest
      exact ⟨place, .done, hfollow⟩
    | cons first front =>
      obtain ⟨rfl, hfront⟩ := List.cons.inj hparts
      obtain ⟨middle, hmiddle, hname⟩ := ih hfront
      exact ⟨middle, .step hfollow hentry hmiddle, hname⟩
  | @along links place next target part text parts hfollow hentry hgo hrest ih =>
    cases front with
    | nil =>
      obtain ⟨rfl, rfl⟩ := List.cons.inj hparts
      exact absurd (hgo.resolve_right Bool.false_ne_true) (fun h => h rfl)
    | cons first front =>
      obtain ⟨rfl, rfl⟩ := List.cons.inj hparts
      obtain ⟨middle, hmiddle, hname⟩ := ih (List.append_assoc _ _ _)
      exact ⟨middle, .along hfollow hentry (.inr rfl) hmiddle, hname⟩
  | @stop links place next part text hfollow hentry =>
    obtain ⟨rfl, hpart⟩ := List.append_inj' (show front ++ [name] = [] ++ [part] from hparts) rfl
    obtain rfl := List.singleton_inj.1 hpart
    exact ⟨place, .done, hfollow⟩

theorem of_road {middle : Location} (h : Leads disk true links place front middle)
    (hname : disk.follow middle name = .ok target) :
    Leads disk false links place (front ++ [name]) target := by
  induction h with
  | @done links place =>
    cases hentry : disk.entry? target with
    | none => exact .step hname (by rw [hentry]; nofun) .done
    | some entry =>
      cases entry with
      | link text => exact .stop hname hentry rfl
      | _ => exact .step hname (by rw [hentry]; nofun) .done
  | step hfollow hentry _ ih => exact .step hfollow hentry (ih hname)
  | along hfollow hentry _ _ ih =>
    have hrest := ih hname
    rw [List.append_assoc] at hrest
    exact .along hfollow hentry (.inl (List.concat_ne_nil _ _)) hrest
  | stop _ _ hthrough => cases hthrough

/-- **The last part of a path** is met at the end of the road along the parts before it. -/
theorem concat_iff : Leads disk false links place (front ++ [name]) target ↔
    ∃ middle, Leads disk true links place front middle ∧ disk.follow middle name = .ok target :=
  ⟨road, fun ⟨_, hmiddle, hname⟩ => of_road hmiddle hname⟩

/-- **A road to a directory** is there on every disk with the directories on it and the links on it.
A link may be missing from the other disk if it leads to no directory there. -/
theorem carry_of (h : Leads disk true links place parts target)
    (htarget : disk.entry? target = some .directory)
    (hdirectory : ∀ place, disk.entry? place = some .directory →
      left.entry? place = some .directory)
    (hlink : ∀ place part next text, disk.follow place part = .ok next →
      disk.entry? next = some (.link text) →
      left.entry? next = some (.link text) ∨ ∀ links target,
        Leads left true links (startFrom place text) (Path.segments text) target →
        left.entry? target ≠ some .directory) :
    Leads left true links place parts target := by
  have hfollow {place next : Location} {part : String} (h : disk.follow place part = .ok next) :
      left.follow place part = .ok next :=
    have hplace := follow_directory h
    (follow_congr hplace (hdirectory _ hplace) part).symm.trans h
  induction h with
  | done => exact .done
  | step hnext hentry hrest ih =>
    have hopen := hdirectory _ (hrest.start_directory htarget)
    exact .step (hfollow hnext) (by rw [hopen]; nofun) (ih htarget)
  | @along links place next target part text parts hnext hentry _ _ ih =>
    have hrest := ih htarget
    rcases hlink place part next text hnext hentry with hsame | hastray
    · exact .along (hfollow hnext) hsame (.inr rfl) hrest
    · obtain ⟨middle, fewer, hmiddle, hback⟩ := hrest.append
      exact absurd (hback.start_directory (hdirectory _ htarget)) (hastray _ _ hmiddle)
  | stop _ _ hthrough => cases hthrough

/-- A road to a file is there on every disk with the directories on it and the links on it, or meets
the one link that may be missing from the other disk. -/
theorem carry_or_meets {detour : Location} (h : Leads disk true links place parts target)
    (htarget : ∀ text, left.entry? target ≠ some (.link text))
    (hdirectory : ∀ place, disk.entry? place = some .directory →
      left.entry? place = some .directory)
    (hlink : ∀ place part next text, disk.follow place part = .ok next →
      disk.entry? next = some (.link text) → next ≠ detour → left.entry? next = some (.link text)) :
    Leads left true links place parts target ∨ ∃ above part text fewer parts,
      disk.follow above part = .ok detour ∧ disk.entry? detour = some (.link text) ∧
        fewer < links ∧
        Leads disk true fewer (startFrom above text) (Path.segments text ++ parts) target := by
  have hfollow {place next : Location} {part : String} (h : disk.follow place part = .ok next) :
      left.follow place part = .ok next :=
    have hplace := follow_directory h
    (follow_congr hplace (hdirectory _ hplace) part).symm.trans h
  induction h with
  | done => exact .inl .done
  | @step links place next target part parts hnext _ hrest ih =>
    have hopen : ∀ text, left.entry? next ≠ some (.link text) := by
      rcases hrest.start with rfl | hopen
      · exact htarget
      · rw [hdirectory _ hopen]
        nofun
    exact (ih htarget).imp_left (.step (hfollow hnext) hopen)
  | @along links place next target part text parts hnext hentry _ hrest ih =>
    by_cases hmeets : next = detour
    · subst hmeets
      exact .inr ⟨place, part, text, links, parts, hnext, hentry, Nat.lt_succ_self _, hrest⟩
    · rcases ih htarget with hleads | ⟨above, part, text, fewer, parts, habove, hmet, hfewer, hback⟩
      · exact .inl (.along (hfollow hnext) (hlink _ _ _ _ hnext hentry hmeets) (.inr rfl) hleads)
      · exact .inr ⟨above, part, text, fewer, parts, habove, hmet, Nat.lt_succ_of_lt hfewer, hback⟩
  | stop _ _ hthrough => cases hthrough

/-- **A link to a file** leads there without being followed again, so it does on every disk with the
directories and the other links. -/
theorem carry_link {above : Location} {name text : String}
    (h : Leads disk true links (startFrom above text) (Path.segments text) target)
    (hsound : disk.Sound) (hentry : disk.entry? (above ++ [name]) = some (.link text))
    (hfile : disk.entry? target ≠ some .directory)
    (htarget : ∀ text, left.entry? target ≠ some (.link text))
    (hdirectory : ∀ place, disk.entry? place = some .directory →
      left.entry? place = some .directory)
    (hlink : ∀ place part next text, disk.follow place part = .ok next →
      disk.entry? next = some (.link text) → next ≠ above ++ [name] →
      left.entry? next = some (.link text)) :
    ∃ links, Leads left true links (startFrom above text) (Path.segments text) target := by
  induction links using Nat.strongRecOn with
  | ind links ih =>
    rcases h.carry_or_meets htarget hdirectory hlink with
      hleads | ⟨above', part, text', fewer, parts, hfollow, hentry', hfewer, hback⟩
    · exact ⟨links, hleads⟩
    · -- The link is met again, so fewer links lead from it to the same place.
      obtain rfl := Entry.link.inj (Option.some.inj (hentry.symm.trans hentry'))
      have hlinkFile : disk.entry? (above ++ [name]) ≠ some .directory := by
        rw [hentry]
        nofun
      obtain ⟨-, hconcat⟩ := follow_eq_concat hsound hlinkFile hfollow
      obtain rfl := (List.append_inj' hconcat rfl).1
      obtain ⟨middle, fewer', hmiddle, hrest⟩ := hback.append
      rcases hrest.start with rfl | hopen
      · exact ih fewer hfewer hmiddle
      · obtain rfl := hmiddle.unique h
        exact absurd hopen hfile

end Leads

/-- A disk has the working directory, the directories and the links of another one. -/
structure Keeps (disk left : Disk) : Prop where
  here : left.here = disk.here
  directory : ∀ place, disk.entry? place = some .directory → left.entry? place = some .directory
  link : ∀ place text, disk.entry? place = some (.link text) →
    left.entry? place = some (.link text)

namespace Keeps

theorem refl (disk : Disk) : Keeps disk disk :=
  ⟨rfl, fun _ => id, fun _ _ => id⟩

theorem trans {middle : Disk} (h : Keeps disk middle) (h' : Keeps middle left) :
    Keeps disk left :=
  ⟨h'.here.trans h.here, fun place hplace => h'.directory place (h.directory place hplace),
    fun place text hplace => h'.link place text (h.link place text hplace)⟩

end Keeps

namespace Leads

/-- **A road** is there on every disk with the same directories and links, if it ends in no link
there. -/
theorem carry (h : Leads disk true links place parts target) (hkeeps : Keeps disk left)
    (htarget : ∀ text, left.entry? target ≠ some (.link text)) :
    Leads left true links place parts target := by
  have hfollow {place next : Location} {part : String} (h : disk.follow place part = .ok next) :
      left.follow place part = .ok next :=
    have hplace := follow_directory h
    (follow_congr hplace (hkeeps.directory _ hplace) part).symm.trans h
  induction h with
  | done => exact .done
  | @step links place next target part parts hnext hentry hrest ih =>
    refine .step (hfollow hnext) ?_ (ih htarget)
    rcases hrest.start with rfl | hopen
    · exact htarget
    · rw [hkeeps.directory _ hopen]
      nofun
  | along hnext hentry hgo _ ih =>
    exact .along (hfollow hnext) (hkeeps.link _ _ hentry) hgo (ih htarget)
  | stop _ _ hthrough => cases hthrough

theorem carry_itself (h : Leads disk false links place parts target) (hkeeps : Keeps disk left) :
    Leads left false links place parts target := by
  rcases List.eq_nil_or_concat parts with rfl | ⟨front, name, rfl⟩
  · cases h
    exact .done
  · rw [List.concat_eq_append, concat_iff] at h ⊢
    obtain ⟨middle, hmiddle, hname⟩ := h
    have hopen := follow_directory hname
    have hleft := hkeeps.directory _ hopen
    refine ⟨middle, hmiddle.carry hkeeps (by rw [hleft]; nofun), ?_⟩
    rw [← hname, follow_congr hopen hleft]

end Leads

/-! ## Places -/

/-- A path that a disk can be asked for. -/
structure Askable (path : String) : Prop where
  noNul : path.toList.contains '\x00' = false
  nonempty : path ≠ ""
  short : octetCount path ≤ longestPath

theorem locateParts_eq_ok_iff : disk.locateParts through path parts = .ok target ↔
    Askable path ∧ Leads disk through mostLinks (startFrom disk.here path) parts target := by
  rw [← followLinks_eq_ok_iff, locateParts]
  constructor
  · intro h
    split at h
    · cases h
    split at h
    · cases h
    split at h
    · cases h
    · next hnul hempty hlong => exact ⟨⟨eq_false_of_ne_true hnul, hempty, Nat.not_lt.1 hlong⟩, h⟩
  · rintro ⟨hpath, h⟩
    rw [hpath.noNul, if_neg Bool.false_ne_true, if_neg hpath.nonempty,
      if_neg (Nat.not_lt.2 hpath.short), h]

theorem locateParts_carry (hkeeps : Keeps disk left)
    (h : disk.locateParts false path parts = .ok target) :
    left.locateParts false path parts = .ok target := by
  rw [locateParts_eq_ok_iff] at h ⊢
  rw [hkeeps.here]
  exact ⟨h.1, h.2.carry_itself hkeeps⟩

theorem locate_carry (hkeeps : Keeps disk left) (h : disk.locate path = .ok target)
    (htarget : ∀ text, left.entry? target ≠ some (.link text)) :
    left.locate path = .ok target := by
  rw [locate, locateParts_eq_ok_iff] at h ⊢
  rw [hkeeps.here]
  exact ⟨h.1, h.2.carry hkeeps htarget⟩

theorem locateItself_eq_ok_iff (hpath : Path.segments path = front ++ [name]) :
    disk.locateItself path = .ok target ↔ Askable path ∧ ∃ middle,
      Leads disk true mostLinks (startFrom disk.here path) front middle ∧
        disk.follow middle name = .ok target := by
  rw [locateItself, hpath, locateParts_eq_ok_iff, Leads.concat_iff]

/-- A path that names no link leads to what it names. -/
theorem locate_of_itself (h : disk.locateItself path = .ok target)
    (hlink : ∀ text, disk.entry? target ≠ some (.link text)) : disk.locate path = .ok target := by
  rw [locateItself, locateParts_eq_ok_iff] at h
  rw [locate, locateParts_eq_ok_iff]
  exact ⟨h.1, h.2.to_through hlink⟩

/-- A path that leads somewhere names something, which is where it leads unless it is a link. -/
theorem exists_itself_of_locate (h : disk.locate path = .ok target) :
    ∃ place, disk.locateItself path = .ok place ∧
      ((∀ text, disk.entry? place ≠ some (.link text)) → place = target) := by
  rw [locate, locateParts_eq_ok_iff] at h
  obtain ⟨place, hplace⟩ := h.2.exists_itself
  refine ⟨place, ?_, fun hlink => (hplace.to_through hlink).unique h.2⟩
  rw [locateItself, locateParts_eq_ok_iff]
  exact ⟨h.1, hplace⟩

/-- What stands at a place that was looked for. -/
theorem standing_eq_ok_iff {entry : Entry} {located : Except DiskError Location} :
    (match located with
      | .error error => .error error
      | .ok place =>
        match disk.entry? place with
        | none => .error .notFound
        | some entry => .ok entry : Except DiskError Entry) = .ok entry ↔
      ∃ place, located = .ok place ∧ disk.entry? place = some entry := by
  constructor
  · intro h
    split at h
    · cases h
    · next place =>
      split at h
      · cases h
      · next found hfound =>
        cases h
        exact ⟨place, rfl, hfound⟩
  · rintro ⟨place, rfl, hentry⟩
    simp only [hentry]

theorem findItself_eq_ok_iff {entry : Entry} : disk.findItself path = .ok entry ↔
    ∃ place, disk.locateItself path = .ok place ∧ disk.entry? place = some entry :=
  standing_eq_ok_iff

theorem find_eq_ok_iff {entry : Entry} : disk.find path = .ok entry ↔
    ∃ place, disk.locate path = .ok place ∧ disk.entry? place = some entry :=
  standing_eq_ok_iff

/-- What is read is the content of what stands at a path. -/
theorem read_eq_ok_iff {octets : Octets} : disk.read path = .ok octets ↔
    ∃ entry, disk.find path = .ok entry ∧ entry.content? = some octets := by
  unfold read
  constructor
  · intro h
    split at h
    · cases h
    next entry hfind =>
    cases hcontent : entry.content? with
    | none =>
      rw [hcontent] at h
      cases h
    | some content =>
      rw [hcontent] at h
      cases h
      exact ⟨entry, hfind, hcontent⟩
  · rintro ⟨entry, hfind, hcontent⟩
    simp only [hfind, hcontent, Option.elim_some]

theorem ne_link_of_content? {entry : Entry} {octets : Octets}
    (h : entry.content? = some octets) (text : String) : entry ≠ .link text := by
  rintro rfl
  cases h

/-- The file that a path names stands there. -/
theorem find_of_findItself {entry : Entry} {octets : Octets} (h : disk.findItself path = .ok entry)
    (hcontent : entry.content? = some octets) : disk.find path = .ok entry := by
  obtain ⟨place, hplace, hentry⟩ := findItself_eq_ok_iff.1 h
  refine find_eq_ok_iff.2 ⟨place, locate_of_itself hplace fun text hlink => ?_, hentry⟩
  rw [hentry] at hlink
  exact ne_link_of_content? hcontent text (Option.some.inj hlink)

/-- The file that a path names is what is read there. -/
theorem read_of_findItself {entry : Entry} {octets : Octets} (h : disk.findItself path = .ok entry)
    (hcontent : entry.content? = some octets) : disk.read path = .ok octets :=
  read_eq_ok_iff.2 ⟨entry, find_of_findItself h hcontent, hcontent⟩

/-- On a sound disk, a road that does not end in a directory ends in an entry of one, there or
not. -/
theorem Sound.exists_parent (hsound : disk.Sound)
    (h : Leads disk through links place parts target) (hparts : parts ≠ [])
    (htarget : disk.entry? target ≠ some .directory) :
    ∃ above name, target = above ++ [name] ∧ disk.entry? above = some .directory := by
  obtain ⟨above, name, hname⟩ := h.exists_follow hparts
  exact ⟨above, name, (follow_eq_concat hsound htarget hname).2, follow_directory hname⟩

theorem Sound.locate (hsound : disk.Sound) (h : disk.locate path = .ok target)
    (htarget : disk.entry? target ≠ some .directory) :
    ∃ above name, target = above ++ [name] ∧ disk.entry? above = some .directory :=
  hsound.exists_parent (locateParts_eq_ok_iff.1 h).2 (Path.segments_ne_nil path) htarget

/-- On a sound disk, a path that leads to no directory ends in a name. -/
theorem Sound.isProper (hsound : disk.Sound) (hpath : Path.segments path = front ++ [name])
    (h : disk.locate path = .ok target) (htarget : disk.entry? target ≠ some .directory) :
    IsProper name := by
  have hleads := (locateParts_eq_ok_iff.1 h).2
  rw [hpath] at hleads
  obtain ⟨middle, fewer, -, hname⟩ := hleads.append
  cases hname with
  | step hfollow _ hdone =>
    cases hdone
    exact (follow_eq_concat hsound htarget hfollow).1
  | along hfollow hentry =>
    exact (follow_eq_concat hsound (by rw [hentry]; nofun) hfollow).1
  | stop _ _ hthrough => cases hthrough

/-- On a sound disk, a path that does not name a directory names something in one, by the last of
its parts. -/
theorem Sound.locateItself (hsound : disk.Sound) (hpath : Path.segments path = front ++ [name])
    (h : disk.locateItself path = .ok target) (htarget : disk.entry? target ≠ some .directory) :
    IsProper name ∧ ∃ middle, target = middle ++ [name] ∧
      disk.entry? middle = some .directory ∧
      Leads disk true mostLinks (startFrom disk.here path) front middle := by
  obtain ⟨-, middle, hmiddle, hname⟩ := (locateItself_eq_ok_iff hpath).1 h
  obtain ⟨hproper, rfl⟩ := follow_eq_concat hsound htarget hname
  exact ⟨hproper, middle, rfl, follow_directory hname, hmiddle⟩

end HistoryExpansion.Disk
