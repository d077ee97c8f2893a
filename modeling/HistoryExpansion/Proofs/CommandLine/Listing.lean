import HistoryExpansion.Proofs.CommandLine.ReadOnly
import HistoryExpansion.Proofs.Engine.Replay
import HistoryExpansion.Proofs.Lookup

/-!
# Rows and the numbers that find them

A listing cuts the numbered commands of a record, so a row keeps the number that its command has in
the whole record (`getElem?_rows`). Expanding that number behind the trigger goes another way, over
the digits and the position that they count to, and comes to the same command: `runList_numbers`.
-/

namespace HistoryExpansion

/-- The decimal form of a natural number refers to it. -/
theorem Expression.writes_toString (number : Nat) :
    Writes (toString number).toList (.index (Int64.ofIntClamp number)) :=
  .index (writesNumber_toString number)

namespace CommandLine

namespace Listing

/-! ## Rows -/

variable {limit : Nat} {record : Record}

theorem length_rows :
    (rows limit record).length = min limit record.commands.length := by
  rw [rows, length_newest, List.length_map, List.length_zipIdx]

/-- **A row** shows a command with the number that it has in the record. -/
theorem getElem?_rows (place : Nat) :
    (rows limit record)[place]? =
      record.commands[record.commands.length - limit + place]?.map fun command =>
        ⟨record.commands.length - limit + place + 1, command⟩ := by
  rw [rows, newest, List.getElem?_drop, List.getElem?_map, List.getElem?_zipIdx, Option.map_map,
    List.length_map, List.length_zipIdx]
  refine congrArg (Option.map · _) (funext fun command => ?_)
  rw [Function.comp_apply, Nat.add_comm 1]

/-- The command of a row stands before the position that its number says. -/
theorem exists_position_of_mem_rows {row : Row} (h : row ∈ rows limit record) :
    ∃ position, record.commands[position]? = some row.command ∧ row.number = position + 1 := by
  obtain ⟨place, hplace⟩ := List.getElem?_of_mem h
  rw [getElem?_rows, Option.map_eq_some_iff] at hplace
  obtain ⟨command, hcommand, rfl⟩ := hplace
  exact ⟨_, hcommand, rfl⟩

/-! ## Listings -/

theorem render_of_ne_nil (h : record.commands ≠ []) (session : String) :
    render session limit (some record) =
      heading session ++ String.join ((rows limit record).map line) := by
  have hkept : (!record.isEmpty) = true := by
    rwa [Record.isEmpty, Bool.not_eq_true', List.isEmpty_eq_false_iff]
  rw [render, Option.filter_some, if_pos hkept]

/-- A text starts as what stands before it does. -/
theorem head?_append {front : String} {c : Char} (h : front.toList.head? = some c)
    (back : String) : (front ++ back).toList.head? = some c := by
  rw [String.toList_append, List.head?_append, h, Option.some_or]

theorem head?_heading (session : String) : (heading session).toList.head? = some 'C' := by
  have hfront : "Command History for '".toList.head? = some 'C' := by decide +kernel
  exact head?_append (head?_append (head?_append (head?_append hfront _) _) _) _

theorem head?_emptyNotice (session : String) : (emptyNotice session).toList.head? = some 'N' := by
  have hfront : "No command history for session '".toList.head? = some 'N' := by decide +kernel
  exact head?_append (head?_append hfront _) _

/-- The notice stands for a record without commands as it does for none. -/
theorem render_eq_emptyNotice_iff {session : String} {found : Option Record} :
    render session limit found = emptyNotice session ↔
      found = none ∨ ∃ record, found = some record ∧ record.commands = [] := by
  cases found with
  | none => exact iff_of_true rfl (.inl rfl)
  | some record =>
    by_cases h : record.commands = []
    · have hempty : ¬(!record.isEmpty) = true := by
        rw [Record.isEmpty, h]
        decide
      refine iff_of_true ?_ (.inr ⟨record, rfl, h⟩)
      rw [render, Option.filter_some, if_neg hempty]
    · refine iff_of_false (fun heq => ?_) ?_
      · rw [render_of_ne_nil h] at heq
        have hfirst := head?_emptyNotice session
        rw [← heq, head?_append (head?_heading session)] at hfirst
        cases hfirst
      · rintro (hnone | ⟨kept, hkept, hnil⟩)
        · cases hnone
        · cases hkept
          exact h hnil

end Listing

section

variable (surroundings : Surroundings) {config : Config} {session : String} {path : Option String}
  {disk : Disk} {store : Store}

/-- **A number in front of a command finds it**: the digits that are listed are read as the number
that counts to the command. -/
theorem runExpand_number (hvalid : config.Valid) (hopen : openStore config path disk = .ok store)
    {record : Record} (hrecord : store.archive.get? session = some record)
    (hlength : record.commands.length < 2 ^ 63 - 1) {position : Nat} {command : String}
    (hcommand : record.commands[position]? = some command) :
    runExpand surroundings config session (config.trigger ++ toString (position + 1)) path disk =
      .ofOutput disk (command ++ "\n") := by
  have hasked : Message.expansion? config.trigger (config.trigger ++ toString (position + 1)) =
      some ⟨.index (Int64.ofIntClamp (position + 1 : Nat)), false⟩ :=
    Message.expansion?_of_writes hvalid (Expression.writes_toString (position + 1)) nofun
  have hcounts : CountsTo (position + 1 : Nat) record.commands.length position := by
    obtain ⟨hlt, -⟩ := List.getElem?_eq_some_iff.1 hcommand
    unfold CountsTo
    omega
  obtain ⟨found, hfound, hresolve⟩ := resolveIn_of_countsTo hlength hcounts
  obtain rfl := Option.some.inj (hcommand.symm.trans hfound)
  have hresolved : resolve session (some record)
      (.index (Int64.ofIntClamp (position + 1 : Nat))) = .ok command := hresolve
  have hanswer : Step.resolved? config.trigger session
      (config.trigger ++ toString (position + 1)) (.ok (some record)) =
        .ok (some (command, false)) := by
    unfold Step.resolved?
    rw [hasked]
    simp only [Except.bind, hresolved, Except.map]
  rw [runExpand_eq, hopen]
  simp only [hrecord, hanswer, Except.map]
  rfl

/-- **The numbers that are listed are the numbers that are understood.** Under a valid
configuration, whatever the history file holds, listing a session with a record of commands shows
the newest of them, as many as the limit allows, oldest first, and each behind the number of its
place in the record; and expanding the trigger and such a number prints the command of its row. The
notice that there is nothing to list is printed exactly if the session has no record or one without
commands. -/
theorem runList_numbers (hconfig : config.validate = .ok ()) (session : String) (limit : UInt64)
    (path : Option String) (disk : Disk) :
    let listed := runList surroundings config session limit path disk
    let expanded (text : String) := runExpand surroundings config session text path disk
    (∀ store record, openStore config path disk = .ok store →
      store.archive.get? session = some record → record.commands ≠ [] →
        record.commands.length < 2 ^ 63 - 1 →
          ∃ rows : List Row,
            rows.length = min limit.toNat record.commands.length ∧
            (∀ place, rows[place]? =
              record.commands[record.commands.length - limit.toNat + place]?.map fun command =>
                ⟨record.commands.length - limit.toNat + place + 1, command⟩) ∧
            listed = .ofOutput disk (Listing.heading session ++ String.join (rows.map fun row =>
              Listing.padded 5 (toString row.number) ++ "  " ++ row.command ++ "\n")) ∧
            ∀ row ∈ rows,
              expanded (config.trigger ++ toString row.number) =
                .ofOutput disk (row.command ++ "\n")) ∧
    (listed.output = Listing.emptyNotice session ↔
      ∃ store, openStore config path disk = .ok store ∧
        (store.archive.get? session = none ∨
          ∃ record, store.archive.get? session = some record ∧ record.commands = [])) := by
  intro listed expanded
  have hvalid := Config.validate_eq_ok_iff.1 hconfig
  have hlisted : listed = _ := runList_eq surroundings config disk session limit path
  constructor
  · intro store record hopen hrecord hne hlength
    refine ⟨Listing.rows limit.toNat record, Listing.length_rows, Listing.getElem?_rows, ?_,
      fun row hrow => ?_⟩
    · rw [hlisted, hopen]
      simp only [hrecord, Listing.render_of_ne_nil hne]
      rfl
    · obtain ⟨position, hcommand, hnumber⟩ := Listing.exists_position_of_mem_rows hrow
      rw [hnumber]
      exact runExpand_number surroundings hvalid hopen hrecord hlength hcommand
  · cases hopen : openStore config path disk with
    | error failure =>
      rw [hopen] at hlisted
      refine iff_of_false (fun houtput => ?_) fun ⟨_, herror, _⟩ => nomatch herror
      have hfirst := Listing.head?_emptyNotice session
      rw [← houtput, hlisted] at hfirst
      cases hfirst
    | ok store =>
      rw [hopen] at hlisted
      have houtput : listed.output =
          Listing.render session limit.toNat (store.archive.get? session) := by rw [hlisted]; rfl
      rw [houtput, Listing.render_eq_emptyNotice_iff]
      simp only [Except.ok.injEq, exists_eq_left']

end

/-- A trigger that is a digit, and a history file that holds more than the window: of the two
commands that are left, the newer one is listed. -/
theorem runList_numbers_digit :
    let records : List Record := [⟨"ci", ["ls", "pwd", "id"]⟩, ⟨"local", []⟩]
    let disk : Disk := { entries := [(["h"], .file (Utf8.encode (HistoryFormat.render records)))] }
    let surroundings : Surroundings := ⟨⟨none, none⟩, [], fun _ _ disk => (.ok ⟨"", "", 0⟩, disk)⟩
    let config : Config := { window := 2, trigger := "1" }
    let store : Store := .inFile ⟨"h", (Archive.empty 2).restore records⟩
    let list (session : String) := runList surroundings config session 1 (some "h") disk
    config.validate = .ok () ∧ openStore config (some "h") disk = .ok store ∧
      store.archive.get? "ci" = some ⟨"ci", ["pwd", "id"]⟩ ∧
      list "ci" = .ofOutput disk (Listing.heading "ci" ++ "    2  id\n") ∧
      runExpand surroundings config "ci" "12" (some "h") disk = .ofOutput disk "id\n" ∧
      (list "local").output = "No command history for session 'local'.\n" := by
  intro records disk surroundings config store list
  have hdefect : config.defect? = none := by decide +kernel
  have hconfig : config.validate = .ok () := by rw [Config.validate, hdefect]
  have hopen : openStore config (some "h") disk = .ok store := by
    have hrecords : HistoryFile.recordsAt disk "h" = .ok records := by decide +kernel
    show (HistoryFile.openAt disk "h" 2).map Store.inFile = _
    rw [HistoryFile.openAt_eq_restore, hrecords]
    rfl
  have hrecord : store.archive.get? "ci" = some ⟨"ci", ["pwd", "id"]⟩ := by decide +kernel
  have hempty : store.archive.get? "local" = some ⟨"local", []⟩ := by decide +kernel
  obtain ⟨hrows, -⟩ := runList_numbers surroundings hconfig "ci" 1 (some "h") disk
  obtain ⟨-, hnotice⟩ := runList_numbers surroundings hconfig "local" 1 (some "h") disk
  obtain ⟨rows, hcount, hplace, hlisted, hfound⟩ :=
    hrows store _ hopen hrecord (List.cons_ne_nil _ _) (by decide)
  have hone : rows = [⟨2, "id"⟩] := by
    obtain ⟨row, rfl⟩ := List.length_eq_one_iff.1 hcount
    exact congrArg (fun row => [row]) (Option.some.inj (hplace 0))
  subst hone
  refine ⟨hconfig, hopen, hrecord, ?_, ?_, ?_⟩
  · have hshown : String.join ([(⟨2, "id"⟩ : Row)].map fun row =>
        Listing.padded 5 (toString row.number) ++ "  " ++ row.command ++ "\n") =
          "    2  id\n" := by decide +kernel
    rw [hshown] at hlisted
    exact hlisted
  · have htext : "12" = config.trigger ++ toString 2 := by decide +kernel
    have hexpanded := hfound _ List.mem_cons_self
    exact (congrArg (runExpand surroundings config "ci" · (some "h") disk) htext).trans hexpanded
  · exact hnotice.2 ⟨store, hopen, .inr ⟨_, hempty, rfl⟩⟩

end CommandLine

end HistoryExpansion
