import HistoryExpansion.CommandLine.Program
import HistoryExpansion.Proofs.Config.Loading

/-!
# The configuration of a run

Where the configuration of a run comes from (`Configured`): it is loaded from the file that is named
or from the one in the usual place, and only where no file is named and none stands in the usual
place is it the usual one. So whatever a run carries out, it does so under a valid configuration,
and otherwise it ends with the report of what failed (`loadConfig_cases`).

With what loading a document comes to this gives `configuration_loaded`: the values of a
configuration are those that the document gives and the usual ones, they are checked in a fixed
order, and a file may be missing only where none was asked for.
-/

namespace HistoryExpansion.CommandLine

open Config

/-- The configuration that a run has. -/
inductive Configured (environment : Config.Environment) (invocation : Invocation) (disk : Disk) :
    Config → Prop
  | loaded {config : Config}
      (h : Config.load disk (configPath environment invocation) = .ok config) :
      Configured environment invocation disk config
  | usual (hnamed : invocation.configPath = none)
      (hmissing : ∀ entry, disk.find (Config.usualPath environment) ≠ .ok entry) :
      Configured environment invocation disk {}

section Configuration

variable {environment : Config.Environment} {invocation : Invocation} {disk : Disk}
  {config : Config}

/-- The configuration of a run is valid, wherever it comes from. -/
theorem Configured.validate (h : Configured environment invocation disk config) :
    config.validate = .ok () := by
  cases h with
  | loaded h => exact Config.validate_of_load h
  | usual => exact Config.validate_usual

theorem configPath_of_named {named : String} (h : invocation.configPath = some named) :
    configPath environment invocation = named := by
  rw [configPath, h, Option.getD_some]

theorem configPath_of_none (h : invocation.configPath = none) :
    configPath environment invocation = Config.usualPath environment := by
  rw [configPath, h, Option.getD_none]

/-- Without any file the configuration is the usual one. -/
theorem loadConfig_of_missing (hnamed : invocation.configPath = none)
    (hmissing : ∀ entry, disk.find (Config.usualPath environment) ≠ .ok entry) :
    loadConfig environment invocation disk = .ok {} := by
  refine if_neg ?_
  rw [hnamed, configPath_of_none hnamed, Disk.holds_eq_true_iff]
  rintro (hsome | ⟨entry, hentry⟩)
  · cases hsome
  · exact hmissing entry hentry

/-- **The configuration of a run** is one that it can have, or the run has none since a file cannot
be loaded that is named or stands in the usual place. -/
theorem loadConfig_cases (environment : Config.Environment) (invocation : Invocation)
    (disk : Disk) :
    (∃ config, Configured environment invocation disk config ∧
      loadConfig environment invocation disk = .ok config) ∨
    ∃ failure, Config.load disk (configPath environment invocation) = .error failure ∧
      loadConfig environment invocation disk = .error (.because
        ("Failed to load config from " ++ configPath environment invocation) failure) := by
  by_cases hload : invocation.configPath.isSome ∨
      disk.holds (configPath environment invocation) = true
  · rw [loadConfig, if_pos hload]
    cases hloaded : Config.load disk (configPath environment invocation) with
    | ok config => exact .inl ⟨config, .loaded hloaded, rfl⟩
    | error failure => exact .inr ⟨failure, rfl, rfl⟩
  · obtain ⟨hnamed, hholds⟩ := not_or.1 hload
    have hnamed : invocation.configPath = none := by simpa using hnamed
    have hmissing : ∀ entry, disk.find (Config.usualPath environment) ≠ .ok entry := by
      intro entry hentry
      rw [configPath_of_none hnamed] at hholds
      exact hholds (Disk.holds_eq_true_iff.2 ⟨entry, hentry⟩)
    exact .inl ⟨{}, .usual hnamed hmissing, loadConfig_of_missing hnamed hmissing⟩

theorem invoke_of_loadConfig (surroundings : Surroundings)
    (h : loadConfig surroundings.environment invocation disk = .ok config) :
    invoke surroundings invocation disk = carryOut surroundings config invocation disk := by
  rw [invoke, h]

theorem invoke_of_error (surroundings : Surroundings) {report : Report}
    (h : loadConfig surroundings.environment invocation disk = .error report) :
    invoke surroundings invocation disk = .ofReport disk report := by
  rw [invoke, h]

/-- **A missing file** ends a run that names it, and is passed over by one that names none. -/
theorem invoke_of_missing (surroundings : Surroundings)
    (hmissing : ∀ entry,
      disk.find (configPath surroundings.environment invocation) ≠ .ok entry) :
    invoke surroundings invocation disk =
      match invocation.configPath with
      | some named => .ofReport disk
          (.because ("Failed to load config from " ++ named) (.configMissing named))
      | none => carryOut surroundings {} invocation disk := by
  cases hnamed : invocation.configPath with
  | some named =>
    rw [configPath_of_named hnamed] at hmissing
    have hload : Config.load disk named = .error (.configMissing named) :=
      Config.load_eq_configMissing_iff.2 ⟨hmissing, rfl⟩
    refine invoke_of_error surroundings ?_
    rw [loadConfig, hnamed, configPath_of_named hnamed, hload]
    rfl
  | none =>
    rw [configPath_of_none hnamed] at hmissing
    exact invoke_of_loadConfig surroundings (loadConfig_of_missing hnamed hmissing)

end Configuration

/-- **Configurations are filled in, checked and reported exactly.** Loading reports a missing file
if nothing stands at the path, and only then. Let a file hold a document that writes a
configuration: each value is the one that the document gives, or the usual one. That configuration
is loaded exactly if a record keeps a command, the trigger is there and holds no blank, and the
shell is more than blanks; else the first of the three that fails is reported by its name. What is
loaded is valid. So the program carries an invocation out under a valid configuration, loaded or the
usual one, or ends with the report of what cannot be loaded; and only where no file is named may it
be missing. -/
theorem configuration_loaded (disk : Disk) (path : String) :
    (∀ missing, Config.load disk path = .error (.configMissing missing) ↔
      (∀ entry, disk.find path ≠ .ok entry) ∧ missing = path) ∧
    (∀ text node config, disk.readText path = .ok text → Yaml.Node.parse text = some node →
      WritesConfig node config →
        (Config.load disk path = .ok config ↔
          1 ≤ config.window ∧ config.TriggerUsable ∧ config.ShellUsable) ∧
        (¬1 ≤ config.window →
          ∃ reason, Config.load disk path = .error (.configInvalid "history" reason)) ∧
        (1 ≤ config.window → ¬config.TriggerUsable →
          ∃ reason, Config.load disk path = .error (.configInvalid "bang" reason)) ∧
        (1 ≤ config.window → config.TriggerUsable → ¬config.ShellUsable →
          ∃ reason, Config.load disk path = .error (.configInvalid "executor.shell" reason))) ∧
    (∀ config, Config.load disk path = .ok config → config.validate = .ok ()) ∧
    ({} : Config).validate = .ok () ∧
    ∀ surroundings words invocation, Request.read words = .ok (.invoke invocation) →
      ((∃ config, config.validate = .ok () ∧
          Configured surroundings.environment invocation disk config ∧
          run surroundings words disk = carryOut surroundings config invocation disk) ∨
        ∃ failure,
          Config.load disk (configPath surroundings.environment invocation) = .error failure ∧
          run surroundings words disk = .ofReport disk (.because ("Failed to load config from " ++
            configPath surroundings.environment invocation) failure)) ∧
      ((∀ entry, disk.find (configPath surroundings.environment invocation) ≠ .ok entry) →
        run surroundings words disk =
          match invocation.configPath with
          | some named => .ofReport disk
              (.because ("Failed to load config from " ++ named) (.configMissing named))
          | none => carryOut surroundings {} invocation disk) := by
  refine ⟨fun missing => Config.load_eq_configMissing_iff,
    fun text node config htext hnode hwrites => ?_, fun config => Config.validate_of_load,
    Config.validate_usual, fun surroundings words invocation hwords => ?_⟩
  · have hload := Config.load_of_writesConfig htext hnode hwrites
    have hrefused {field : String}
        (h : ∃ reason, config.validate = .error (.configInvalid field reason)) :
        ∃ reason, Config.load disk path = .error (.configInvalid field reason) := by
      obtain ⟨reason, hreason⟩ := h
      exact ⟨reason, by rw [hload, hreason]; rfl⟩
    refine ⟨?_, fun hwindow => hrefused (Config.exists_validate_eq_history hwindow),
      fun hwindow htrigger => hrefused (Config.exists_validate_eq_bang hwindow htrigger),
      fun hwindow htrigger hshell =>
        hrefused (Config.exists_validate_eq_shell hwindow htrigger hshell)⟩
    rw [← Config.valid_iff, ← Config.validate_eq_ok_iff]
    exact ⟨Config.validate_of_load, fun hvalid => by rw [hload, hvalid]; rfl⟩
  · have hrun : run surroundings words disk = invoke surroundings invocation disk := by
      rw [run, hwords]
    rw [hrun]
    refine ⟨?_, invoke_of_missing surroundings⟩
    obtain ⟨config, hconfigured, hconfig⟩ | ⟨failure, hfailure, hreport⟩ :=
      loadConfig_cases surroundings.environment invocation disk
    · exact .inl ⟨config, hconfigured.validate, hconfigured,
        invoke_of_loadConfig surroundings hconfig⟩
    · exact .inr ⟨failure, hfailure, invoke_of_error surroundings hreport⟩

/-- Of two values that fail, the first is reported, although the document gives them in another
order; and a file that is named but not there ends the run. -/
theorem configuration_loaded_refused :
    let text := "executor: \x7btimeout_seconds: 0x1F, shell: ' '\x7d\n" ++
      "bang: \"a\\u3000\"\nhistory: +1_0\n"
    let disk : Disk := { entries := [(["r"], .file (Utf8.ofString text)),
      (["u"], .file (Utf8.ofString "storage:\n  path: ~\n"))] }
    let launcher := Yaml.Node.mapping
      [(.scalar none .plain "timeout_seconds", .scalar none .plain "0x1F"),
        (.scalar none .plain "shell", .scalar none .single " ")]
    let node := Yaml.Node.mapping [(.scalar none .plain "executor", launcher),
      (.scalar none .plain "bang", .scalar none .double "a\u3000"),
      (.scalar none .plain "history", .scalar none .plain "+1_0")]
    let surroundings : Surroundings := ⟨⟨none, none⟩, [], fun _ _ disk => (.ok ⟨"", "", 0⟩, disk)⟩
    disk.readText "r" = .ok text.toList ∧ Yaml.Node.parse text.toList = some node ∧
      WritesConfig node ⟨10, "a\u3000", ⟨" ", "-c", 31⟩, none⟩ ∧
      (∃ reason, Config.load disk "r" = .error (.configInvalid "bang" reason)) ∧
      Config.load disk "u" = .ok {} ∧ ({} : Config).validate = .ok () ∧
      Request.read ["-c", "m"] = .ok (.invoke ⟨some "m", "local", .loop⟩) ∧
      run surroundings ["-c", "m"] disk =
        .ofReport disk (.because "Failed to load config from m" (.configMissing "m")) := by
  intro text disk launcher node surroundings
  have htext : disk.readText "r" = .ok text.toList := by decide +kernel
  have hnode : Yaml.Node.parse text.toList = some node := by decide +kernel
  have hlimit : WritesWord (.scalar none .plain "0x1F") 31 := by
    have hdigits : Digits 16 "1F".toList [1, 15] := ⟨by decide, by decide +kernel⟩
    have htrimmed : Text.trimmed "0x1F".toList = '0' :: 'x' :: "1F".toList := by decide +kernel
    refine .scalar ?_
    rw [htrimmed]
    exact .unsigned (.marked .hex hdigits)
  have hwindow : WritesWord (.scalar none .plain "+1_0") 10 := by
    have hdigits : Digits 10 "1_0".toList [1, 0] := ⟨by decide, by decide +kernel⟩
    have htrimmed : Text.trimmed "+1_0".toList = '+' :: "1_0".toList := by decide +kernel
    refine .scalar ?_
    rw [htrimmed]
    exact .signed (.decimal hdigits)
  have hplain : ∀ name ∈ ["timeout_seconds", "shell", "executor", "bang", "history"],
      Yaml.Node.isNull .plain name = false := by decide +kernel
  have hkey : ∀ name ∈ ["timeout_seconds", "shell", "executor", "bang", "history"],
      WritesText (.scalar none .plain name) name := fun name h => .free rfl (hplain name h)
  have hshell : WritesText (.scalar none .single " ") " " := .free rfl rfl
  have htrigger : WritesText (.scalar none .double "a\u3000") "a\u3000" := writesText_quoted _
  have hlauncher : WritesLauncher launcher ⟨" ", "-c", 31⟩ := by
    have names : Names ["shell", "shell_arg", "timeout_seconds"] launcher
        [("timeout_seconds", .scalar none .plain "0x1F"), ("shell", .scalar none .single " ")] :=
      .mapping (.cons ⟨hkey _ (by simp), rfl⟩ (.cons ⟨hkey _ (by simp), rfl⟩ .nil)) (by simp)
        (by simp)
    exact .mapping names (.present (by simp) hshell) (.absent (by simp)) (.present (by simp) hlimit)
  have hwrites : WritesConfig node ⟨10, "a\u3000", ⟨" ", "-c", 31⟩, none⟩ := by
    have names : Names ["history", "bang", "executor", "storage"] node
        [("executor", launcher), ("bang", .scalar none .double "a\u3000"),
          ("history", .scalar none .plain "+1_0")] :=
      .mapping (.cons ⟨hkey _ (by simp), rfl⟩ (.cons ⟨hkey _ (by simp), rfl⟩
        (.cons ⟨hkey _ (by simp), rfl⟩ .nil))) (by simp) (by simp)
    exact .mapping names (.present (by simp) hwindow) (.present (by simp) htrigger)
      (.present (by simp) hlauncher) (.absent (by simp))
  have hload : Config.load disk "u" = .ok {} := by decide +kernel
  have hwords : Request.read ["-c", "m"] = .ok (.invoke ⟨some "m", "local", .loop⟩) := by
    decide +kernel
  have hmissing : ∀ entry, disk.find "m" ≠ .ok entry := by
    have hholds : disk.holds "m" = false := by decide +kernel
    exact fun entry hentry => Bool.eq_false_iff.1 hholds (Disk.holds_eq_true_iff.2 ⟨entry, hentry⟩)
  obtain ⟨-, hrefused, -⟩ := configuration_loaded disk "r"
  obtain ⟨-, -, hvalid, -, hrun⟩ := configuration_loaded disk "u"
  obtain ⟨-, -, hbang, -⟩ := hrefused _ _ _ htext hnode hwrites
  have hunusable : ¬TriggerUsable ⟨10, "a\u3000", ⟨" ", "-c", 31⟩, none⟩ := by
    rw [triggerUsable_iff]
    decide +kernel
  exact ⟨htext, hnode, hwrites, hbang (by decide) hunusable, hload, hvalid _ hload, hwords,
    (hrun surroundings _ _ hwords).2 hmissing⟩

end HistoryExpansion.CommandLine
