import HistoryExpansion.Store

/-!
# Backends over an archive

`Backend.Serves` says that the records of a backend are those of an archive that is seen in its
worlds. How commands are run is left open: an executor may do what it likes, and remember it, as
long as it leaves the records alone. The backends of a store are of this kind, whether the store is
in memory or in a file.
-/

namespace HistoryExpansion.Backend

/-- A backend whose records are those of an archive in its world. -/
structure Serves {World : Type} (backend : Backend World) (archive : World → Archive) : Prop where
  fetch : ∀ session world,
    backend.fetch session world = (.ok ((archive world).get? session), world)
  append : ∀ session command world,
    archive (backend.append session command world).2 = (archive world).push session command
  run : ∀ session command world, archive (backend.run session command world).2 = archive world

/-- The backend that is nothing but an archive. -/
theorem serves_inMemory (answer : (session command : String) → Except Failure Output) :
    (inMemory answer).Serves id :=
  ⟨fun _ _ => rfl, fun _ _ _ => rfl, fun _ _ _ => rfl⟩

/-- The backend of a store, in memory or in a file, beside any way to run commands on a disk. -/
theorem serves_workspace (run : (session command : String) → Action Disk Output) :
    (Workspace.backend run).Serves fun workspace => workspace.store.archive := by
  refine ⟨fun _ _ => rfl, fun session command workspace => ?_, fun _ _ _ => rfl⟩
  obtain ⟨store, disk⟩ := workspace
  cases store <;> rfl

end HistoryExpansion.Backend
