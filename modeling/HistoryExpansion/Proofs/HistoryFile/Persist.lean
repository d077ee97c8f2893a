import HistoryExpansion.HistoryFile
import HistoryExpansion.Proofs.Disk

/-!
# Writing a history file

A history file that has a mere name lies in the working directory, with its temporary file beside
it. If the temporary file is a proper file or is not there yet, an archive that is written without a
failure is what the history file holds afterwards, and nothing is left of the temporary file:
`persist_of_inWorkingDirectory`.
-/

namespace HistoryExpansion.HistoryFile

open HistoryExpansion.Path (IsName)

/-- The path of a history file in the working directory. -/
structure InWorkingDirectory (path : String) : Prop where
  name : IsName path
  temporary : IsName (temporaryPath path)
  apart : temporaryPath path ≠ path

instance (path : String) : Decidable (InWorkingDirectory path) :=
  decidable_of_iff (IsName path ∧ IsName (temporaryPath path) ∧ temporaryPath path ≠ path)
    ⟨fun ⟨name, temporary, apart⟩ => ⟨name, temporary, apart⟩,
      fun h => ⟨h.name, h.temporary, h.apart⟩⟩

/-- The working directory is there, and nothing but a file is in the place of the temporary file of
a path. -/
structure Ready (path : String) (disk : Disk) : Prop where
  here : disk.entry? disk.here = some .directory
  free : ∀ entry, disk.entry? (disk.here ++ [temporaryPath path]) = some entry →
    ∃ content, entry = .file content

theorem not_prefix_sibling {left right : String} (h : left ≠ right) (here : Location) :
    ¬here ++ [left] <+: here ++ [right] := by
  rw [List.prefix_append_right_inj]
  exact fun hprefix => h (List.cons_prefix_cons.1 hprefix).1

theorem not_prefix_here (name : String) (here : Location) : ¬here ++ [name] <+: here := by
  intro h
  have hlength := h.length_le
  rw [List.length_append, List.length_singleton] at hlength
  omega

/-- Moving the temporary file into place, once it is written. -/
theorem read_of_rename {path : String} (hpath : InWorkingDirectory path) {octets : Octets}
    {disk left : Disk} (hhere : disk.entry? disk.here = some .directory)
    (hfile : disk.entry? (disk.here ++ [temporaryPath path]) = some (.file octets))
    (h : Disk.rename (temporaryPath path) path disk = (.ok (), left)) :
    Ready path left ∧ left.read path = .ok octets := by
  have hmoved := Disk.rename_names hhere hpath.temporary hpath.name hpath.apart h
  have hsame : left.here = disk.here := by
    rw [hmoved]
    rfl
  have hdirectory : left.entry? left.here = some .directory := by
    rw [hsame, hmoved, Disk.entry?_moveTree_outside (not_prefix_here _ _) (not_prefix_here _ _)]
    exact hhere
  refine ⟨⟨hdirectory, fun entry hentry => ?_⟩, Disk.read_name hdirectory hpath.name ?_⟩
  · rw [hsame, hmoved, Disk.entry?_moveTree_source (List.concat_ne_nil _ _)
      (not_prefix_sibling hpath.apart.symm _)] at hentry
    cases hentry
  · rw [hsame, hmoved, Disk.entry?_moveTree_target (List.concat_ne_nil _ _) (List.concat_ne_nil _ _)
      fun heq => hpath.apart (List.singleton_inj.1 (List.append_cancel_left heq))]
    exact hfile

/-- **Writing an archive** without a failure makes it the content of the history file. -/
theorem persist_of_inWorkingDirectory {path : String} (hpath : InWorkingDirectory path)
    {archive : Archive} {disk left : Disk} (hready : Ready path disk)
    (h : persist ⟨path, archive⟩ disk = (.ok (), left)) :
    Ready path left ∧ left.read path = .ok (content archive) := by
  have hparent : makeParent path disk = (.ok (), disk) := by
    rw [makeParent, hpath.name.parent]
    rfl
  have hapart : disk.here ≠ disk.here ++ [temporaryPath path] := fun heq =>
    List.cons_ne_nil _ _ (List.self_eq_append_right.1 heq)
  simp only [persist, hparent] at h
  split at h
  · cases h
  · next filled hwrite =>
    obtain rfl := Disk.write_name hready.here hpath.temporary hready.free hwrite
    refine read_of_rename hpath ?_ ?_ h
    · rw [Disk.here_fill, Disk.entry?_fill (List.concat_ne_nil _ _), if_neg hapart]
      exact hready.here
    · rw [Disk.here_fill, Disk.entry?_fill (List.concat_ne_nil _ _), if_pos rfl]

end HistoryExpansion.HistoryFile
