import HistoryExpansion.Proofs.Config.Scalar

/-!
# What documents write

`WritesConfig node config` says that a document gives some values of a configuration and leaves the
others out, with nothing but YAML in it: the entries of its mappings in any order (`Names`), each
value under its name (`Given`), and the usual values in place of those that are left out. The two
mappings within the document may be left out whole.

A document that writes a configuration is read as that configuration (`WritesConfig.ofNode?`), and
there is one for every configuration (`exists_writesConfig`).
-/

namespace HistoryExpansion.Config

open Yaml

/-! ## Mappings -/

/-- An entry of a mapping that writes the name of a field and has its value. -/
def IsField (entry : Node × Node) (field : Field) : Prop :=
  WritesText entry.1 field.1 ∧ entry.2 = field.2

/-- A node whose names are those of some fields, each known and none twice, with the values of the
fields. The names stand in any order. Null stands for the mapping without names. -/
inductive Names (known : List String) : Node → List Field → Prop
  | null {tag : Option Tag} {style : Style} {text : String}
      (h : tag = some .null ∨ Node.isNull style text = true) :
      Names known (.scalar tag style text) []
  | mapping {entries : List (Node × Node)} {fields : List Field}
      (written : List.Forall₂ IsField entries fields)
      (distinct : (fields.map (·.1)).Nodup) (hknown : ∀ field ∈ fields, field.1 ∈ known) :
      Names known (.mapping entries) fields

/-- A value that some fields may give under a name, as nodes of its kind write it. -/
inductive Given {α : Type} (Writes : Node → α → Prop) (fields : List Field) (name : String) :
    Option α → Prop
  | absent (h : ∀ field ∈ fields, field.1 ≠ name) : Given Writes fields name none
  | present {node : Node} {value : α} (hmem : (name, node) ∈ fields) (h : Writes node value) :
      Given Writes fields name (some value)

section Mappings

variable {known : List String} {entries : List (Node × Node)} {fields : List Field} {node : Node}
  {name : String}

/-- The key that merges mappings is the text of two angle brackets. -/
theorem WritesText.isMerge (h : WritesText node name) (hname : name ≠ "<<") :
    node.isMerge = false := by
  obtain ⟨tag, style, rfl⟩ := h.eq_scalar
  unfold Node.isMerge
  split
  · next heq => cases heq; exact absurd rfl hname
  · rfl

/-- Keys that write different texts are different. -/
theorem WritesText.sameKey {other : Node} {otherName : String} (h : WritesText node name)
    (hother : WritesText other otherName) (hne : name ≠ otherName) :
    node.sameKey other = false := by
  obtain ⟨tag, style, rfl⟩ := h.eq_scalar
  obtain ⟨tag', style', rfl⟩ := hother.eq_scalar
  rw [Node.sameKey, beq_eq_false_iff_ne.2 hne, Bool.and_false]

theorem named?_eq_some (h : List.Forall₂ IsField entries fields) :
    named? entries = some fields := by
  refine mapM_eq_some_of_forall₂ (h.imp ?_)
  intro (key, value) (name, node) ⟨hkey, hvalue⟩
  cases hvalue
  change key.text?.map _ = _
  rw [hkey.text?]
  rfl

/-- Without the key that merges mappings, a mapping has the entries that are written. -/
theorem split?_eq_some (h : ∀ entry ∈ entries, entry.1.isMerge = false) :
    Node.split? entries = some (entries, []) := by
  induction entries with
  | nil => rw [Node.split?]
  | cons entry entries ih =>
    obtain ⟨key, value⟩ := entry
    rw [Node.split?, ih fun entry hentry => h entry (List.mem_cons_of_mem _ hentry)]
    dsimp only
    rw [h _ List.mem_cons_self, if_neg Bool.false_ne_true]

theorem distinctKeys_eq_true (h : List.Forall₂ IsField entries fields)
    (hdistinct : (fields.map (·.1)).Nodup) : Node.distinctKeys entries = true := by
  induction h with
  | nil => rfl
  | @cons entry field entries fields head tail ih =>
    rw [List.map_cons, List.nodup_cons] at hdistinct
    have hnew : Node.hasKey entry.1 entries = false := by
      rw [Node.hasKey, List.any_eq_false]
      intro other hother
      obtain ⟨otherField, hfield, hwritten, -⟩ := exists_mem_of_forall₂ tail hother
      rw [head.1.sameKey hwritten fun h => hdistinct.1 (h ▸ List.mem_map_of_mem hfield)]
      exact Bool.false_ne_true
    rw [Node.distinctKeys, hnew, ih hdistinct.2]
    rfl

/-- Nothing is left out of a list without duplicates. -/
theorem eraseDups_of_nodup {names : List String} (h : names.Nodup) : names.eraseDups = names := by
  induction names with
  | nil => rfl
  | cons name names ih =>
    rw [List.nodup_cons] at h
    have hkept : names.filter (fun other => !other == name) = names :=
      List.filter_eq_self.2 fun other hother => by
        simpa using fun heq : other = name => h.1 (heq ▸ hother)
    rw [List.eraseDups_cons, hkept, ih h.2]

/-- The fields of a node are read as they are, whatever their order. -/
theorem Names.fields? (h : Names known node fields) (hmerge : "<<" ∉ known) :
    fields? known node = some fields := by
  cases h with
  | null h =>
    rw [Config.fields?, if_pos]
    simpa only [Bool.or_eq_true, decide_eq_true_eq] using h
  | @mapping entries fields written distinct hknown =>
    have hunmerged : ∀ entry ∈ entries, entry.1.isMerge = false := by
      intro entry hentry
      obtain ⟨field, hfield, hwritten, -⟩ := exists_mem_of_forall₂ written hentry
      exact hwritten.isMerge fun h => hmerge (h ▸ hknown field hfield)
    have hentries : Node.entries? entries = some entries := by
      rw [Node.entries?, split?_eq_some hunmerged]
      exact if_pos (distinctKeys_eq_true written distinct)
    have hused : fields.filter (fun field => known.contains field.1) = fields :=
      List.filter_eq_self.2 fun field hfield => List.contains_iff_mem.2 (hknown field hfield)
    have hpassed : fields.filter (not ∘ fun field => known.contains field.1) = [] :=
      List.filter_eq_nil_iff.2 fun field hfield => by simpa using hknown field hfield
    rw [Config.fields?, hentries, Option.bind_some, named?_eq_some written]
    dsimp only
    rw [List.partition_eq_filter_filter, hused, hpassed]
    exact if_pos ⟨by rw [eraseDups_of_nodup distinct], rfl⟩

/-- Of fields without a name twice, the one with a name is found. -/
theorem find?_name (hdistinct : (fields.map (·.1)).Nodup) (hmem : (name, node) ∈ fields) :
    fields.find? (·.1 == name) = some (name, node) := by
  induction fields with
  | nil => cases hmem
  | cons field fields ih =>
    rw [List.map_cons, List.nodup_cons] at hdistinct
    cases hmem with
    | head => exact List.find?_cons_of_pos (beq_self_eq_true name)
    | tail _ hmem =>
      have hne : field.1 ≠ name := fun h => hdistinct.1 (h ▸ List.mem_map_of_mem hmem)
      rw [List.find?_cons_of_neg (by simpa using hne)]
      exact ih hdistinct.2 hmem

variable {α : Type} {Writes : Node → α → Prop} {read : Node → Option α} {value : Option α}

/-- A field is read as the value that is given, or as the usual one if none is. -/
theorem Given.field (h : Given Writes fields name value) (hdistinct : (fields.map (·.1)).Nodup)
    (hread : ∀ {node value}, Writes node value → read node = some value) (usual : α) :
    field fields name usual read = some (value.getD usual) := by
  cases h with
  | absent h =>
    have hnone : fields.find? (·.1 == name) = none :=
      List.find?_eq_none.2 fun field hfield => by simpa using h field hfield
    rw [Config.field, hnone]
    rfl
  | present hmem h =>
    rw [Config.field, find?_name hdistinct hmem]
    exact hread h

end Mappings

/-! ## Documents -/

/-- A node that writes how commands are run. What it leaves out is as usual. -/
inductive WritesLauncher : Node → Launcher → Prop
  | mapping {node : Node} {fields : List Field} {shell argument : Option String}
      {limit : Option UInt64} (names : Names ["shell", "shell_arg", "timeout_seconds"] node fields)
      (hshell : Given WritesText fields "shell" shell)
      (hargument : Given WritesText fields "shell_arg" argument)
      (hlimit : Given WritesWord fields "timeout_seconds" limit) :
      WritesLauncher node ⟨shell.getD "sh", argument.getD "-c", limit.getD 30⟩

/-- A node that writes where the history is kept: in memory alone if it leaves that out. -/
inductive WritesStorage : Node → Option String → Prop
  | mapping {node : Node} {fields : List Field} {path : Option (Option String)}
      (names : Names ["path"] node fields) (hpath : Given WritesPath fields "path" path) :
      WritesStorage node (path.getD none)

/-- A node that writes a configuration: each value that it gives is the one given, and each value
that it leaves out is the usual one. -/
inductive WritesConfig : Node → Config → Prop
  | mapping {node : Node} {fields : List Field} {window : Option UInt64} {trigger : Option String}
      {launcher : Option Launcher} {historyPath : Option (Option String)}
      (names : Names ["history", "bang", "executor", "storage"] node fields)
      (hwindow : Given WritesWord fields "history" window)
      (htrigger : Given WritesText fields "bang" trigger)
      (hlauncher : Given WritesLauncher fields "executor" launcher)
      (hhistoryPath : Given WritesStorage fields "storage" historyPath) :
      WritesConfig node ⟨window.getD 500, trigger.getD "!", launcher.getD ⟨"sh", "-c", 30⟩,
        historyPath.getD none⟩

section Documents

variable {node : Node}

theorem Names.nodup {known : List String} {fields : List Field} (h : Names known node fields) :
    (fields.map (·.1)).Nodup := by
  cases h with
  | null => exact List.nodup_nil
  | mapping _ distinct => exact distinct

theorem WritesLauncher.launcher? {launcher : Launcher} (h : WritesLauncher node launcher) :
    launcher? node = some launcher := by
  cases h with
  | mapping names hshell hargument hlimit =>
    rw [Config.launcher?, names.fields? (by decide)]
    dsimp only
    rw [hshell.field names.nodup WritesText.text?, hargument.field names.nodup WritesText.text?,
      hlimit.field names.nodup WritesWord.word?]

theorem WritesStorage.historyPath? {path : Option String} (h : WritesStorage node path) :
    historyPath? node = some path := by
  cases h with
  | mapping names hpath =>
    rw [Config.historyPath?, names.fields? (by decide)]
    exact hpath.field names.nodup WritesPath.optionalText? none

/-- A document that writes a configuration is read as that configuration. -/
theorem WritesConfig.ofNode? {config : Config} (h : WritesConfig node config) :
    ofNode? node = some config := by
  cases h with
  | mapping names hwindow htrigger hlauncher hhistoryPath =>
    rw [Config.ofNode?, names.fields? (by decide)]
    dsimp only
    rw [hwindow.field names.nodup WritesWord.word?, htrigger.field names.nodup WritesText.text?,
      hlauncher.field names.nodup WritesLauncher.launcher?,
      hhistoryPath.field names.nodup WritesStorage.historyPath?]

end Documents

/-! ## Every configuration can be written -/

/-- Fields of known names, none twice, are those of some mapping. -/
theorem exists_names {known : List String} {fields : List Field}
    (hdistinct : (fields.map (·.1)).Nodup) (hknown : ∀ name ∈ fields.map (·.1), name ∈ known) :
    ∃ node, Names known node fields := by
  refine ⟨.mapping (fields.map fun field => (.scalar none .double field.1, field.2)),
    .mapping ?_ hdistinct fun field hfield => hknown field.1 (List.mem_map_of_mem hfield)⟩
  rw [List.forall₂_map_left_iff, List.forall₂_same]
  exact fun field _ => ⟨writesText_quoted field.1, rfl⟩

theorem exists_writesLauncher (launcher : Launcher) : ∃ node, WritesLauncher node launcher := by
  obtain ⟨limit, hlimit⟩ := exists_writesWord launcher.limit
  obtain ⟨node, names⟩ : ∃ node, Names ["shell", "shell_arg", "timeout_seconds"] node
      [("shell", .scalar none .double launcher.shell),
        ("shell_arg", .scalar none .double launcher.argument), ("timeout_seconds", limit)] :=
    exists_names (by simp) (by simp)
  exact ⟨node, .mapping names (.present (by simp) (writesText_quoted launcher.shell))
    (.present (by simp) (writesText_quoted launcher.argument)) (.present (by simp) hlimit)⟩

theorem exists_writesStorage (path : Option String) : ∃ node, WritesStorage node path := by
  obtain ⟨value, hvalue⟩ := exists_writesPath path
  obtain ⟨node, names⟩ : ∃ node, Names ["path"] node [("path", value)] :=
    exists_names (by simp) (by simp)
  exact ⟨node, .mapping names (.present (by simp) hvalue)⟩

/-- **Every configuration** is written by some document, whatever its values are. -/
theorem exists_writesConfig (config : Config) : ∃ node, WritesConfig node config := by
  obtain ⟨window, hwindow⟩ := exists_writesWord config.window
  obtain ⟨launcher, hlauncher⟩ := exists_writesLauncher config.launcher
  obtain ⟨storage, hstorage⟩ := exists_writesStorage config.historyPath
  obtain ⟨node, names⟩ : ∃ node, Names ["history", "bang", "executor", "storage"] node
      [("history", window), ("bang", .scalar none .double config.trigger),
        ("executor", launcher), ("storage", storage)] :=
    exists_names (by simp) (by simp)
  exact ⟨node, .mapping names (.present (by simp) hwindow)
    (.present (by simp) (writesText_quoted config.trigger)) (.present (by simp) hlauncher)
    (.present (by simp) hstorage)⟩

end HistoryExpansion.Config
