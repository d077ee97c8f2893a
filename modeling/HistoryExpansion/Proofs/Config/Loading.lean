import HistoryExpansion.Config.Load
import HistoryExpansion.Proofs.Config.Basic
import HistoryExpansion.Proofs.Config.Document

/-!
# Loading

What comes of loading a configuration: nothing stands at the path (`load_eq_configMissing_iff`), or
a document is read from the file there and its configuration is checked (`load_of_writesConfig`).
The three conditions that are checked, in this order, are that a record keeps a command, that the
trigger can be used and that the shell can; the first one that fails is reported
(`exists_validate_eq_history`, `exists_validate_eq_bang`, `exists_validate_eq_shell`).
-/

namespace HistoryExpansion

/-- Something stands at a path if something is found there. -/
theorem Disk.holds_eq_true_iff {disk : Disk} {path : String} :
    disk.holds path = true ↔ ∃ entry, disk.find path = .ok entry := by
  rw [Disk.holds]
  cases disk.find path with
  | error error => exact iff_of_false Bool.false_ne_true nofun
  | ok entry => exact iff_of_true rfl ⟨entry, rfl⟩

/-- Only what stands at a path can be read as a text. -/
theorem Disk.holds_of_readText {disk : Disk} {path : String} {text : List Char}
    (h : disk.readText path = .ok text) : disk.holds path = true := by
  rw [Disk.readText, Disk.read] at h
  rw [Disk.holds]
  cases hfind : disk.find path with
  | error error =>
    rw [hfind] at h
    cases h
  | ok entry => rfl

/-- What fails when a file is read as a text is its reading. -/
theorem Disk.exists_io_of_readText {disk : Disk} {path : String} {failure : Failure}
    (h : disk.readText path = .error failure) : ∃ cause, failure = .io cause := by
  rw [Disk.readText] at h
  cases hread : disk.read path with
  | error error =>
    rw [hread] at h
    cases h
    exact ⟨_, rfl⟩
  | ok octets =>
    rw [hread] at h
    dsimp only [Octets.text] at h
    split at h
    · cases h
      exact ⟨_, rfl⟩
    · cases h

namespace Config

/-! ## The three conditions -/

/-- The trigger is there and holds no blank. -/
def TriggerUsable (config : Config) : Prop :=
  config.trigger ≠ "" ∧ ∀ c ∈ config.trigger.toList, Text.isBlank c = false

/-- The shell is more than blanks. -/
def ShellUsable (config : Config) : Prop :=
  ∃ c ∈ config.launcher.shell.toList, Text.isBlank c = false

section Conditions

variable {config : Config}

theorem one_le_window_iff : 1 ≤ config.window ↔ config.window ≠ 0 := by
  rw [Ne, ← UInt64.toNat_inj, UInt64.le_iff_toNat_le]
  exact Nat.one_le_iff_ne_zero

theorem shellUsable_iff :
    config.ShellUsable ↔ (Text.trimmed config.launcher.shell.toList).isEmpty = false := by
  rw [List.isEmpty_eq_false_iff, Ne, Text.trimmed_eq_nil_iff, ShellUsable]
  simp only [not_forall, exists_prop, Bool.not_eq_true]

theorem triggerUsable_iff : config.TriggerUsable ↔
    config.trigger ≠ "" ∧ config.trigger.toList.any Text.isBlank = false := by
  rw [TriggerUsable, List.any_eq_false]
  simp only [Bool.not_eq_true]

theorem valid_iff :
    config.Valid ↔ 1 ≤ config.window ∧ config.TriggerUsable ∧ config.ShellUsable := by
  rw [one_le_window_iff, shellUsable_iff]
  constructor
  · exact fun h => ⟨h.window, ⟨h.trigger_ne, h.trigger_unbroken⟩, h.shell⟩
  · exact fun ⟨hwindow, htrigger, hshell⟩ => ⟨hwindow, htrigger.1, htrigger.2, hshell⟩

theorem validate_of_defect {defect : Defect} (h : config.defect? = some defect) :
    config.validate = .error (.configInvalid defect.field defect.reason) := by
  rw [validate, h]
  rfl

/-- A record that could not keep a single command is reported first. -/
theorem exists_validate_eq_history (h : ¬1 ≤ config.window) :
    ∃ reason, config.validate = .error (.configInvalid "history" reason) := by
  have hwindow : config.window = 0 := not_not.1 (mt one_le_window_iff.2 h)
  have hdefect : config.defect? = some .noWindow := if_pos hwindow
  exact ⟨_, validate_of_defect hdefect⟩

/-- A trigger that cannot be used is reported next. -/
theorem exists_validate_eq_bang (hwindow : 1 ≤ config.window) (h : ¬config.TriggerUsable) :
    ∃ reason, config.validate = .error (.configInvalid "bang" reason) := by
  rw [one_le_window_iff] at hwindow
  by_cases hempty : config.trigger = ""
  · have hdefect : config.defect? = some .emptyTrigger := by
      rw [defect?, if_neg hwindow, if_pos hempty]
    exact ⟨_, validate_of_defect hdefect⟩
  · have hblank : config.trigger.toList.any Text.isBlank = true := by
      rw [triggerUsable_iff, not_and] at h
      exact Bool.not_eq_false _ ▸ h hempty
    have hdefect : config.defect? = some .blankInTrigger := by
      rw [defect?, if_neg hwindow, if_neg hempty, if_pos hblank]
    exact ⟨_, validate_of_defect hdefect⟩

/-- A shell that cannot be used is reported last. -/
theorem exists_validate_eq_shell (hwindow : 1 ≤ config.window) (htrigger : config.TriggerUsable)
    (h : ¬config.ShellUsable) :
    ∃ reason, config.validate = .error (.configInvalid "executor.shell" reason) := by
  rw [one_le_window_iff] at hwindow
  obtain ⟨hempty, hblank⟩ := triggerUsable_iff.1 htrigger
  rw [shellUsable_iff, Bool.not_eq_false] at h
  have hdefect : config.defect? = some .noShell := by
    rw [defect?, if_neg hwindow, if_neg hempty, if_neg (Bool.eq_false_iff.1 hblank), if_pos h]
  exact ⟨_, validate_of_defect hdefect⟩

/-- The usual configuration is valid. -/
theorem validate_usual : ({} : Config).validate = .ok () := rfl

end Conditions

/-! ## Loading -/

section Loading

variable {disk : Disk} {path : String}

variable (disk path) in
/-- All that can come of loading a configuration. -/
inductive Loads : Except Failure Config → Prop
  | missing (hmissing : ∀ entry, disk.find path ≠ .ok entry) :
      Loads (.error (.configMissing path))
  | unreadable {entry : Entry} {cause : String} (hentry : disk.find path = .ok entry)
      (h : disk.readText path = .error (.io cause)) : Loads (.error (.io cause))
  | malformed {text : List Char} (htext : disk.readText path = .ok text) (h : parse text = none) :
      Loads (.error .yaml)
  | refused {text : List Char} {config : Config} {defect : Defect}
      (htext : disk.readText path = .ok text) (hparse : parse text = some config)
      (h : config.defect? = some defect) : Loads (.error defect.failure)
  | loaded {text : List Char} {config : Config} (htext : disk.readText path = .ok text)
      (hparse : parse text = some config) (h : config.validate = .ok ()) : Loads (.ok config)

variable (disk path) in
theorem loads_load : Loads disk path (load disk path) := by
  unfold load
  split
  next hholds =>
    obtain ⟨entry, hentry⟩ := Disk.holds_eq_true_iff.1 hholds
    split
    next failure htext =>
      obtain ⟨cause, rfl⟩ := Disk.exists_io_of_readText htext
      exact .unreadable hentry htext
    next text htext =>
      split
      next hparse => exact .malformed htext hparse
      next config hparse =>
        cases hdefect : config.defect? with
        | none =>
          have hvalid : config.validate = .ok () := by rw [validate, hdefect]
          rw [hvalid]
          exact .loaded htext hparse hvalid
        | some defect =>
          rw [validate_of_defect hdefect]
          exact .refused htext hparse hdefect
  next hholds =>
    exact .missing fun entry hentry => hholds (Disk.holds_eq_true_iff.2 ⟨entry, hentry⟩)

/-- A missing file is reported exactly if nothing stands at the path. -/
theorem load_eq_configMissing_iff {missing : String} :
    load disk path = .error (.configMissing missing) ↔
      (∀ entry, disk.find path ≠ .ok entry) ∧ missing = path := by
  constructor
  · intro h
    have hloads := loads_load disk path
    rw [h] at hloads
    cases hloads with
    | missing hmissing => exact ⟨hmissing, rfl⟩
  · rintro ⟨hmissing, rfl⟩
    rw [load, if_neg]
    rw [Disk.holds_eq_true_iff]
    exact fun ⟨entry, hentry⟩ => hmissing entry hentry

/-- No configuration is given that is not valid. -/
theorem validate_of_load {config : Config} (h : load disk path = .ok config) :
    config.validate = .ok () := by
  have hloads := loads_load disk path
  rw [h] at hloads
  cases hloads with
  | loaded _ _ hvalid => exact hvalid

/-- A document in a file is read, and its configuration is checked. -/
theorem load_of_writesConfig {text : List Char} {node : Yaml.Node} {config : Config}
    (htext : disk.readText path = .ok text) (hnode : Yaml.Node.parse text = some node)
    (h : WritesConfig node config) : load disk path = config.validate.map fun _ => config := by
  have hparse : parse text = some config := by
    rw [parse, hnode, Option.bind_some, h.ofNode?]
  rw [load, if_pos (Disk.holds_of_readText htext), htext]
  dsimp only
  rw [hparse]

end Loading

end Config

end HistoryExpansion
