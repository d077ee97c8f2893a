import HistoryExpansion.Config.Basic

/-!
# Valid configurations

The configurations that `validate` lets pass are the `Valid` ones (`validate_eq_ok_iff`).
-/

namespace HistoryExpansion.Config

/-- Every value can be used: a record keeps a command, the trigger can be typed, and there is a
program to run commands. -/
structure Valid (config : Config) : Prop where
  window : config.window ≠ 0
  trigger_ne : config.trigger ≠ ""
  trigger_unbroken : ∀ c ∈ config.trigger.toList, Text.isBlank c = false
  shell : (Text.trimmed config.launcher.shell.toList).isEmpty = false

theorem defect?_eq_none_iff {config : Config} : config.defect? = none ↔ config.Valid := by
  constructor
  · intro h
    unfold defect? at h
    split at h
    · cases h
    next hwindow =>
    split at h
    · cases h
    next htrigger =>
    split at h
    · cases h
    next hblank =>
    split at h
    · cases h
    next hshell =>
    rw [Bool.not_eq_true, List.any_eq_false] at hblank
    exact ⟨hwindow, htrigger, fun c hc => Bool.eq_false_iff.2 (hblank c hc),
      Bool.eq_false_iff.2 hshell⟩
  · intro ⟨hwindow, htrigger, hunbroken, hshell⟩
    have hblank : ¬config.trigger.toList.any Text.isBlank = true := by
      rw [Bool.not_eq_true, List.any_eq_false]
      exact fun c hc => Bool.eq_false_iff.1 (hunbroken c hc)
    rw [defect?, if_neg hwindow, if_neg htrigger, if_neg hblank,
      if_neg (Bool.eq_false_iff.1 hshell)]

/-- **Validation** lets exactly the valid configurations pass. -/
theorem validate_eq_ok_iff {config : Config} : config.validate = .ok () ↔ config.Valid := by
  rw [← defect?_eq_none_iff, validate]
  cases config.defect? with
  | none => exact iff_of_true rfl rfl
  | some defect => exact iff_of_false nofun nofun

end HistoryExpansion.Config
