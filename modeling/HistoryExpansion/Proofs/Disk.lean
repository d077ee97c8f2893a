import HistoryExpansion.Disk.Change
import HistoryExpansion.Proofs.Path

/-!
# Files in the working directory

The paths that are mere names (`Path.IsName`) lead straight into the working directory, and what
a successful change of such a file leaves of the disk is plain to say: a write fills the place of
the file (`write_name`), and a move lets what stood at the one place stand at the other
(`rename_names`). The laws of `entry?` say what is then found at which place.
-/

namespace HistoryExpansion

/-! ## Names -/

namespace Path

/-- A path that is the name of something in the working directory. -/
structure IsName (name : String) : Prop where
  noSlash : '/' ∉ name.toList
  noNul : '\x00' ∉ name.toList
  nonempty : name ≠ ""
  ne_dot : name ≠ "."
  ne_dots : name ≠ ".."
  short : Disk.octetCount name ≤ Disk.longestName

instance (name : String) : Decidable (IsName name) :=
  decidable_of_iff ('/' ∉ name.toList ∧ '\x00' ∉ name.toList ∧ name ≠ "" ∧ name ≠ "." ∧
      name ≠ ".." ∧ Disk.octetCount name ≤ Disk.longestName)
    ⟨fun ⟨noSlash, noNul, nonempty, dot, dots, short⟩ =>
        ⟨noSlash, noNul, nonempty, dot, dots, short⟩,
      fun h => ⟨h.noSlash, h.noNul, h.nonempty, h.ne_dot, h.ne_dots, h.short⟩⟩

variable {name : String}

theorem IsName.segments (h : IsName name) : Path.segments name = [name] := by
  rw [Path.segments, splitAtEach_of_notMem h.noSlash, List.map_singleton, String.ofList_toList]

theorem IsName.isAbsolute (h : IsName name) : Path.isAbsolute name = false := by
  rw [Path.isAbsolute, beq_eq_false_iff_ne]
  exact fun hhead => h.noSlash (List.mem_of_head? hhead)

/-- The directory of a name is the working directory, which is not named. -/
theorem IsName.parent (h : IsName name) : parent? name = some "" := by
  have hparts : parts name = [name] := by
    rw [parts, h.segments]
    show (if name = "" then [] else [name]) ++ _ = _
    rw [if_neg h.nonempty]
    rfl
  rw [parent?, hparts, h.isAbsolute]
  rfl

end Path

namespace Disk

open HistoryExpansion.Path (IsName)

variable {disk left : Disk} {place other source target : Location} {name : String}

/-! ## Entries -/

theorem entry?_eq_find? (h : place ≠ []) (disk : Disk) :
    disk.entry? place = (disk.entries.find? (·.1 == place)).map Prod.snd :=
  if_neg h

theorem entry?_congr (h : disk.entries = left.entries) (place : Location) :
    disk.entry? place = left.entry? place := by
  unfold entry?
  rw [h]

theorem find?_replace (entries : List (Location × Entry)) (place other : Location)
    (entry : Entry) :
    (entries.map fun old => if old.1 = place then (place, entry) else old).find? (·.1 == other) =
      (entries.find? (·.1 == other)).map fun old =>
        if old.1 = place then (place, entry) else old := by
  have hkeys : (fun old : Location × Entry => old.1 == other) ∘
      (fun old => if old.1 = place then (place, entry) else old) = (·.1 == other) := by
    funext old
    simp only [Function.comp_apply]
    split
    · next hold => rw [hold]
    · rfl
  rw [List.find?_map, hkeys]

/-- A place has the entry that was put there, and the others have theirs. -/
theorem entry?_put (h : place ≠ []) (disk : Disk) (entry : Entry) (other : Location) :
    entry? (disk.put place entry) other =
      if other = place then some entry else disk.entry? other := by
  by_cases hroot : other = []
  · subst hroot
    rw [if_neg (Ne.symm h)]
    rfl
  rw [entry?_eq_find? hroot, entry?_eq_find? hroot, put]
  split
  · next hany =>
    rw [find?_replace]
    cases hfind : disk.entries.find? (·.1 == other) with
    | none =>
      have hne : other ≠ place := by
        rintro rfl
        obtain ⟨old, hold, hplace⟩ := List.any_eq_true.1 hany
        exact List.find?_eq_none.1 hfind old hold hplace
      rw [if_neg hne]
      rfl
    | some old =>
      have hold : old.1 = other := by simpa using List.find?_some hfind
      simp only [Option.map_some, hold]
      split <;> rfl
  · next hany =>
    rw [List.find?_append]
    by_cases hsame : other = place
    · subst hsame
      have hnone : disk.entries.find? (·.1 == other) = none :=
        List.find?_eq_none.2 fun old hold heq => hany (List.any_eq_true.2 ⟨old, hold, heq⟩)
      have hlast : [(other, entry)].find? (·.1 == other) = some (other, entry) :=
        List.find?_cons_of_pos BEq.rfl
      rw [hnone, if_pos rfl, hlast]
      rfl
    · have hlast : [(place, entry)].find? (·.1 == other) = none :=
        List.find?_cons_of_neg fun heq => hsame (eq_of_beq heq).symm
      rw [if_neg hsame, hlast, Option.or_none]

/-- Filling a place puts a file there, whatever is noted of it besides. -/
theorem fill_frame (disk : Disk) (place : Location) (content : Octets) :
    (disk.fill place content).entries = (disk.put place (.file content)).entries ∧
      (disk.fill place content).here = disk.here := by
  unfold fill
  split
  · unfold create
    simp only
    split <;> exact ⟨rfl, rfl⟩
  · exact ⟨rfl, rfl⟩

theorem here_fill (disk : Disk) (place : Location) (content : Octets) :
    (disk.fill place content).here = disk.here :=
  (fill_frame disk place content).2

/-- A place that was filled holds a file, and the others hold what they did. -/
theorem entry?_fill (h : place ≠ []) (disk : Disk) (content : Octets) (other : Location) :
    entry? (disk.fill place content) other =
      if other = place then some (.file content) else disk.entry? other := by
  rw [entry?_congr (fill_frame disk place content).1, entry?_put h]

/-- The place that moving a tree takes a place to. -/
def moved (source target place : Location) : Location :=
  if source.isPrefixOf place then target ++ place.drop source.length else place

theorem moved_self (source target : Location) : moved source target source = target := by
  rw [moved, if_pos (List.isPrefixOf_iff_prefix.2 List.prefix_rfl), List.drop_length,
    List.append_nil]

theorem moved_outside (h : ¬source <+: place) (target : Location) :
    moved source target place = place :=
  if_neg fun hprefix => h (List.isPrefixOf_iff_prefix.1 hprefix)

/-- Only the source and what is below it is moved to the target or below it. -/
theorem eq_of_moved_eq_self (h : other ≠ target) (heq : moved source target other = target) :
    other = source := by
  by_cases hprefix : source <+: other
  · obtain ⟨below, rfl⟩ := hprefix
    rw [moved, if_pos (List.isPrefixOf_iff_prefix.2 (List.prefix_append _ _)), List.drop_left,
      List.append_right_eq_self] at heq
    rw [heq, List.append_nil]
  · rw [moved_outside hprefix] at heq
    exact absurd heq h

theorem eq_of_moved_eq (hplace : ¬target <+: place) (heq : moved source target other = place) :
    other = place ∧ ¬source <+: place := by
  by_cases hprefix : source <+: other
  · rw [moved, if_pos (List.isPrefixOf_iff_prefix.2 hprefix)] at heq
    exact absurd ⟨_, heq⟩ hplace
  · rw [moved_outside hprefix] at heq
    subst heq
    exact ⟨rfl, hprefix⟩

/-- What is found at a place after a move, if it is what was at another place before. -/
theorem entry?_moveTree_of_iff (hplace : place ≠ []) (hother : other ≠ [])
    (h : ∀ old, old ≠ target ∧ moved source target old = place ↔ old = other) (disk : Disk) :
    entry? ((disk.drop target).moveTree source target) place = disk.entry? other := by
  rw [entry?_eq_find? hplace, entry?_eq_find? hother]
  show (((disk.entries.filter fun old => !(old.1 == target)).map fun old =>
    (moved source target old.1, old.2)).find? (·.1 == place)).map Prod.snd = _
  have hkeys : (fun old : Location × Entry =>
      decide ((!(old.1 == target)) = true ∧ (moved source target old.1 == place) = true)) =
        (·.1 == other) := by
    funext old
    have hold := h old.1
    exact Bool.eq_iff_iff.2 (by simpa using hold)
  rw [List.find?_map, List.find?_filter, Option.map_map]
  exact congrArg (fun check => (disk.entries.find? check).map Prod.snd) hkeys

theorem entry?_moveTree_target (hsource : source ≠ []) (htarget : target ≠ [])
    (hne : source ≠ target) (disk : Disk) :
    entry? ((disk.drop target).moveTree source target) target = disk.entry? source := by
  refine entry?_moveTree_of_iff htarget hsource (fun old => ⟨fun h => ?_, ?_⟩) disk
  · exact eq_of_moved_eq_self h.1 h.2
  · rintro rfl
    exact ⟨hne, moved_self old target⟩

theorem entry?_moveTree_outside (hsource : ¬source <+: place) (htarget : ¬target <+: place)
    (disk : Disk) :
    entry? ((disk.drop target).moveTree source target) place = disk.entry? place := by
  by_cases hroot : place = []
  · subst hroot
    rfl
  refine entry?_moveTree_of_iff hroot hroot (fun old => ⟨fun h => ?_, ?_⟩) disk
  · exact (eq_of_moved_eq htarget h.2).1
  · rintro rfl
    exact ⟨fun h => htarget (h ▸ List.prefix_rfl), moved_outside hsource target⟩

/-- Nothing is left where a tree was moved away. -/
theorem entry?_moveTree_source (hsource : source ≠ []) (h : ¬target <+: source) (disk : Disk) :
    entry? ((disk.drop target).moveTree source target) source = none := by
  rw [entry?_eq_find? hsource, Option.map_eq_none_iff, List.find?_eq_none]
  intro entry hentry
  obtain ⟨old, -, rfl⟩ := List.mem_map.1 hentry
  rw [beq_iff_eq]
  exact fun heq => (eq_of_moved_eq h heq).2 List.prefix_rfl

/-! ## Names in the working directory -/

theorem follow_name (h : disk.entry? place = some .directory) (hname : IsName name) :
    disk.follow place name = .ok (place ++ [name]) := by
  unfold follow
  rw [h]
  simp only [hname.nonempty, hname.ne_dot, hname.ne_dots, or_self, ↓reduceIte,
    Nat.not_lt.2 hname.short]

section

variable (hhere : disk.entry? disk.here = some .directory)

include hhere

theorem locateParts_name (hname : IsName name) (through : Bool)
    (hlink : through = true → ∀ text, disk.entry? (disk.here ++ [name]) ≠ some (.link text)) :
    disk.locateParts through name [name] = .ok (disk.here ++ [name]) := by
  have hnul : name.toList.contains '\x00' = false := by
    simpa using hname.noNul
  have hlength : ¬octetCount name > longestPath :=
    Nat.not_lt.2 (Nat.le_trans hname.short (by decide))
  rw [locateParts, hnul, if_neg Bool.false_ne_true, if_neg hname.nonempty, if_neg hlength,
    startFrom, hname.isAbsolute, if_neg Bool.false_ne_true, mostLinks, followLinks, followAll,
    follow_name hhere hname]
  simp only
  split
  · next text hentry =>
    cases through with
    | false => rfl
    | true => exact absurd hentry (hlink rfl text)
  · rfl

theorem locate_name (hname : IsName name)
    (hlink : ∀ text, disk.entry? (disk.here ++ [name]) ≠ some (.link text)) :
    disk.locate name = .ok (disk.here ++ [name]) := by
  rw [locate, hname.segments]
  exact locateParts_name hhere hname true fun _ => hlink

theorem locateNew_name (hname : IsName name) :
    disk.locateNew name = .ok (disk.here ++ [name]) := by
  have htrailing : withoutTrailingSlashes [name] = [name] := by
    simp only [withoutTrailingSlashes, List.reverse_singleton, List.dropWhile_cons,
      decide_eq_true_eq, hname.nonempty, ↓reduceIte]
  rw [locateNew, hname.segments, htrailing]
  exact locateParts_name hhere hname false fun h => absurd h Bool.false_ne_true

/-- A file in the working directory reads as its content. -/
theorem read_name (hname : IsName name) {content : Octets}
    (h : disk.entry? (disk.here ++ [name]) = some (.file content)) :
    disk.read name = .ok content := by
  have hlink : ∀ text, disk.entry? (disk.here ++ [name]) ≠ some (.link text) := by
    rw [h]
    exact fun _ heq => Entry.noConfusion (Option.some.inj heq)
  simp only [read, find, locate_name hhere hname hlink, h, Entry.content?, Option.elim_some]

/-- A write that succeeds where there is a file, or nothing, fills the place of the name. -/
theorem write_name (hname : IsName name)
    (hfree : ∀ entry, disk.entry? (disk.here ++ [name]) = some entry → ∃ old, entry = .file old)
    {content : Octets} (h : write name content disk = (.ok (), left)) :
    left = disk.fill (disk.here ++ [name]) content := by
  have hlink : ∀ text, disk.entry? (disk.here ++ [name]) ≠ some (.link text) := by
    intro text hentry
    obtain ⟨old, hold⟩ := hfree _ hentry
    cases hold
  simp only [write, locate_name hhere hname hlink] at h
  split at h
  · cases h
  · cases h
  · next device _ hentry =>
    obtain ⟨old, hold⟩ := hfree _ hentry
    cases hold
  · split at h
    · cases h
    · cases h
      rfl

/-- A move of a name that succeeds takes the place of the other name. -/
theorem rename_names {source target : String} (hsource : IsName source) (htarget : IsName target)
    (hne : source ≠ target) (h : rename source target disk = (.ok (), left)) :
    left = (disk.drop (disk.here ++ [target])).moveTree (disk.here ++ [source])
      (disk.here ++ [target]) := by
  simp only [rename, locateNew_name hhere hsource, locateNew_name hhere htarget] at h
  split at h
  · cases h
  split at h
  · cases h
  split at h
  · cases h
  split at h
  · cases h
  rw [unlessRefused] at h
  split at h
  · cases h
  · cases h
    exact if_neg fun heq => hne (List.singleton_inj.1 (List.append_cancel_left heq))

end

end Disk

end HistoryExpansion
