import HistoryExpansion.Proofs.Archive.Order
import HistoryExpansion.Proofs.HistoryFile.Opening
import HistoryExpansion.Proofs.HistoryFile.Settled
import HistoryExpansion.Proofs.Text.Utf8Order

/-!
# History files are canonical

What a history file holds is determined by the history and not by how it came about. Runs of appends
that differ in the order of the sessions only end with the same octets at the path
(`appendAll_canonical`), and these list each session once, in the order of the octets of the
sessions' names (`Canonical`).

One append may have been written through a link, or to a device, that stood at the temporary path.
From the second append on the file is sure to be in its place, whatever the disk was like.
-/

namespace HistoryExpansion.HistoryFile

variable {path : String} {file last : HistoryFile} {disk left : Disk}
  {session command : String} {appends : List (String × String)}

/-! ## Octets of an archive -/

/-- The octets of a file that holds an archive, with nothing in them but its records in the order of
the sessions' octets. -/
structure Canonical (archive : Archive) (octets : Octets) : Prop where
  /-- It does not matter in which order the records are listed before they are sorted. -/
  sorted : ∀ listed : List Record, listed.Perm archive.records →
    octets = Utf8.encode (HistoryFormat.render (listed.mergeSort Archive.bySession))
  /-- The octets hold the records of the archive. -/
  records : recordsOf octets = .ok archive.records
  /-- Each session is smaller than those that come after it. -/
  rising : archive.records.Pairwise fun before after =>
    Utf8.ofString before.session < Utf8.ofString after.session
  /-- A session has one element if it has a record, and none if it has none. -/
  once : ∀ session,
    archive.records.filter (·.session == session) = (archive.get? session).toList

/-- **The content of a history file** is canonical. -/
theorem canonical_content (archive : Archive) : Canonical archive (content archive) where
  sorted listed hlisted := by rw [content, Archive.mergeSort_records hlisted]
  records := recordsOf_render archive.records
  rising := archive.ordered.imp Utf8.ofString_lt_iff.2
  once := archive.filter_records

/-! ## Runs of appends -/

/-- Appends one after the other, each a session and its command, up to one that fails. -/
def appendAll : List (String × String) → HistoryFile → Disk →
    Except Failure Unit × HistoryFile × Disk
  | [], file, disk => (.ok (), file, disk)
  | (session, command) :: appends, file, disk =>
    match file.append session command disk with
    | (.error failure, file, disk) => (.error failure, file, disk)
    | (.ok (), file, disk) => appendAll appends file disk

/-- An append that goes through is a rewrite that goes through. -/
theorem append_ok (h : file.append session command disk = (.ok (), last, left)) :
    last = { file with archive := file.archive.push session command } ∧
      last.persist disk = (.ok (), left) := by
  rw [append_eq] at h
  obtain ⟨hresult, rfl, rfl⟩ : _ ∧ _ ∧ _ := by simpa only [Prod.mk.injEq] using h
  refine ⟨rfl, ?_⟩
  rcases hpersist : persist { file with archive := file.archive.push session command } disk with
    ⟨error | done, left⟩
  · rw [hpersist] at hresult
    cases hresult
  · rfl

/-- A run of appends that all go through begins with one. -/
theorem appendAll_cons
    (h : file.appendAll ((session, command) :: appends) disk = (.ok (), last, left)) :
    ∃ next between, file.append session command disk = (.ok (), next, between) ∧
      next.appendAll appends between = (.ok (), last, left) := by
  rw [appendAll] at h
  split at h
  · cases h
  · next next between hnext => exact ⟨next, between, hnext, h⟩

theorem appendAll_eq (h : file.appendAll appends disk = (.ok (), last, left)) :
    last = { file with archive := file.archive.pushAll appends } := by
  induction appends generalizing file disk with
  | nil =>
    cases h
    rfl
  | cons append appends ih =>
    obtain ⟨next, between, hnext, hrest⟩ := appendAll_cons h
    obtain ⟨rfl, -⟩ := append_ok hnext
    exact ih hrest

/-- Appends that all go through settle a disk, and a file that is found at the path afterwards holds
the archive. -/
theorem settled_of_appendAll (h : file.appendAll appends disk = (.ok (), last, left))
    (hsound : disk.Sound) (hne : appends ≠ []) :
    ∃ front name other road, Settled file.path left front name other road ∧
      ∀ octets, left.find file.path = .ok (.file octets) → octets = content last.archive := by
  induction appends generalizing file disk with
  | nil => exact absurd rfl hne
  | cons append appends ih =>
    obtain ⟨next, between, hnext, hrest⟩ := appendAll_cons h
    obtain ⟨rfl, hpersist⟩ := append_ok hnext
    obtain ⟨front, name, other, road, hsettled, hcontent⟩ := settled_of_persist hsound hpersist
    cases appends with
    | nil =>
      cases hrest
      exact ⟨front, name, other, road, hsettled, hcontent⟩
    | cons append appends =>
      have hlast := ih hrest hsettled.sound (List.cons_ne_nil _ _)
      exact hlast

/-- **On a settled disk**, appends that all go through end with the file in its place. -/
theorem findItself_of_appendAll (h : file.appendAll appends disk = (.ok (), last, left))
    {front : List String} {name other : String} {road : Location}
    (hsettled : Settled file.path disk front name other road) (hne : appends ≠ []) :
    left.findItself file.path = .ok (.file (content last.archive)) := by
  induction appends generalizing file disk front name other road with
  | nil => exact absurd rfl hne
  | cons append appends ih =>
    obtain ⟨next, between, hnext, hrest⟩ := appendAll_cons h
    obtain ⟨rfl, hpersist⟩ := append_ok hnext
    cases appends with
    | nil =>
      cases hrest
      exact hsettled.findItself_of_persist hpersist
    | cons append appends =>
      obtain ⟨front, name, other, road, hafter, -⟩ := settled_of_persist hsettled.sound hpersist
      have hlast := ih hrest hafter (List.cons_ne_nil _ _)
      exact hlast

/-- The first append puts the file in its place too, if neither of the paths has a link or a device
in the way. -/
theorem findItself_of_append (h : file.append session command disk = (.ok (), last, left))
    (hsound : disk.Sound) (hplain : PlainTemporary file.path (prepared file.path disk))
    (hlink : ∀ text, (prepared file.path disk).findItself file.path ≠ .ok (.link text)) :
    left.findItself file.path = .ok (.file (content last.archive)) := by
  obtain ⟨rfl, hpersist⟩ := append_ok h
  exact (findItself_of_persist hsound hplain hlink hpersist).1

/-- **Where the file is in its place** after appends that all go through: from the second append on,
and after the first one if nothing was in the way. -/
theorem findItself_of_appends (h : file.appendAll appends disk = (.ok (), last, left))
    (hsound : disk.Sound) (hne : appends ≠ [])
    (hcase : 1 < appends.length ∨ PlainTemporary file.path (prepared file.path disk) ∧
      ∀ text, (prepared file.path disk).findItself file.path ≠ .ok (.link text)) :
    left.findItself file.path = .ok (.file (content last.archive)) := by
  cases appends with
  | nil => exact absurd rfl hne
  | cons append appends =>
    obtain ⟨next, between, hnext, hrest⟩ := appendAll_cons h
    cases appends with
    | nil =>
      obtain ⟨hplain, hlink⟩ := hcase.resolve_left (Nat.lt_irrefl 1)
      cases hrest
      exact findItself_of_append hnext hsound hplain hlink
    | cons append appends =>
      obtain ⟨rfl, hpersist⟩ := append_ok hnext
      obtain ⟨front, name, other, road, hsettled, -⟩ := settled_of_persist hsound hpersist
      have hlast := findItself_of_appendAll hrest hsettled (List.cons_ne_nil _ _)
      exact hlast

/-! ## Two orders -/

/-- Runs with the same appends for each session have the same appends. -/
theorem perm_of_filter {one other : List (String × String)}
    (h : ∀ session, one.filter (·.1 == session) = other.filter (·.1 == session)) :
    one.Perm other := by
  refine List.perm_iff_count.2 fun append => ?_
  have hcount (appends : List (String × String)) :
      (appends.filter (·.1 == append.1)).count append = appends.count append := by
    rw [List.count_filter]
    exact beq_self_eq_true append.1
  rw [← hcount one, h, hcount other]

/-- **The history file is canonical.** Appends that all go through leave the same octets at the path
and the same archive in memory, in whatever order they are, as long as those of each session are in
the same one. A file at the path holds the canonical octets of the archive, and there is one from
the second append on; after a single append there is one if neither the path nor the temporary path
named a link, and the latter no device. -/
theorem appendAll_canonical (hsound : disk.Sound) {one other : List (String × String)}
    (hsame : ∀ session, one.filter (·.1 == session) = other.filter (·.1 == session))
    (hne : one ≠ []) (hone : (file.appendAll one disk).1 = .ok ())
    (hother : (file.appendAll other disk).1 = .ok ()) :
    let first := file.appendAll one disk
    let second := file.appendAll other disk
    first.2.2.read file.path = second.2.2.read file.path ∧
      first.2.1 = second.2.1 ∧
      (∀ octets, first.2.2.find file.path = .ok (.file octets) →
        first.2.2.read file.path = .ok octets ∧ Canonical first.2.1.archive octets) ∧
      (1 < one.length ∨ PlainTemporary file.path (prepared file.path disk) ∧
          (∀ text, (prepared file.path disk).findItself file.path ≠ .ok (.link text)) →
        ∃ octets, first.2.2.find file.path = .ok (.file octets)) := by
  intro first second
  have hfirst : file.appendAll one disk = (.ok (), first.2) := Prod.ext hone rfl
  have hsecond : file.appendAll other disk = (.ok (), second.2) := Prod.ext hother rfl
  have harchive : first.2.1 = second.2.1 := by
    rw [appendAll_eq hfirst, appendAll_eq hsecond, file.archive.pushAll_congr hsame]
  have hperm := perm_of_filter hsame
  refine ⟨?_, harchive, fun octets hfound => ⟨Disk.read_eq_ok_iff.2 ⟨_, hfound, rfl⟩, ?_⟩,
    fun hcase => ?_⟩
  · rcases Nat.lt_or_ge 1 one.length with htwo | hfew
    · have hfile := findItself_of_appends hfirst hsound hne (.inl htwo)
      have hne' : other ≠ [] := fun hnil => hne (List.perm_nil.1 (hnil ▸ hperm))
      have hfile' := findItself_of_appends hsecond hsound hne' (.inl (hperm.length_eq ▸ htwo))
      rw [← harchive] at hfile'
      rw [Disk.read_of_findItself hfile rfl, Disk.read_of_findItself hfile' rfl]
    · -- A single append has no other order.
      obtain ⟨append, rfl⟩ : ∃ append, one = [append] :=
        List.length_eq_one_iff.1 (Nat.le_antisymm hfew (List.length_pos_iff.2 hne))
      obtain rfl := List.singleton_perm.1 hperm
      rfl
  · obtain ⟨-, -, -, -, -, hcontent⟩ := settled_of_appendAll hfirst hsound hne
    rw [hcontent octets hfound]
    exact canonical_content _
  · exact ⟨_, Disk.find_of_findItself (findItself_of_appends hfirst hsound hne hcase) rfl⟩

/-- Two sessions that share a window of one, and a link at the temporary path that leads to the
file. -/
theorem appendAll_canonical_linked :
    let file : HistoryFile := ⟨"d/h.json", Archive.empty 1⟩
    let disk : Disk := { entries := [(["d"], .directory), (["d", "h.json.tmp"], .link "h.json")] }
    let one := [("b", "ls"), ("a", "pwd"), ("b", "cd")]
    let other := [("a", "pwd"), ("b", "ls"), ("b", "cd")]
    disk.Sound ∧
      (∀ session, one.filter (·.1 == session) = other.filter (·.1 == session)) ∧
      (file.appendAll one disk).1 = .ok () ∧ (file.appendAll other disk).1 = .ok () ∧
      (file.appendAll one disk).2.2.read file.path =
        (file.appendAll other disk).2.2.read file.path ∧
      ∃ octets, (file.appendAll one disk).2.2.read file.path = .ok octets ∧
        Canonical (file.appendAll one disk).2.1.archive octets := by
  intro file disk one other
  have hsound : disk.Sound := Disk.sound_of_entries (by decide)
  have hsame : ∀ session, one.filter (·.1 == session) = other.filter (·.1 == session) := by
    intro session
    by_cases ha : "a" = session
    · subst ha
      decide
    · have hother : ("a" == session) = false := beq_eq_false_iff_ne.2 ha
      simp only [one, other, List.filter_cons, hother, Bool.false_eq_true, ↓reduceIte]
  have hone : (file.appendAll one disk).1 = .ok () := eq_ok_iff_toOption.2 (by decide +kernel)
  have hother : (file.appendAll other disk).1 = .ok () :=
    eq_ok_iff_toOption.2 (by decide +kernel)
  obtain ⟨hread, -, hcanonical, hfound⟩ :=
    appendAll_canonical hsound hsame (List.cons_ne_nil _ _) hone hother
  obtain ⟨octets, hfile⟩ := hfound (.inl (by decide))
  exact ⟨hsound, hsame, hone, hother, hread, octets, hcanonical octets hfile⟩

end HistoryExpansion.HistoryFile
