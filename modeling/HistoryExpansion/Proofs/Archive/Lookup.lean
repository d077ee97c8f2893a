import HistoryExpansion.Proofs.Archive.Windows
import HistoryExpansion.Proofs.Lookup

/-!
# Lookups after one more command

A push puts a command behind the others of a session and drops the oldest one if the record was
full. A lookup that goes from the oldest command on hears of this in one case only: when the command
that it named is the one that was dropped. `resolve_push` says so for every token and for every
positive number, in every archive that changes lead to.
-/

namespace HistoryExpansion

section

variable {fits : (command : String) → Bool} {commands : List String}

/-- A test that is not passed by the first command is put to the others. -/
theorem find?_tail_of_findIdx? {position : Nat} (h : commands.findIdx? fits = some position)
    (hpos : 0 < position) : commands.tail.find? fits = commands.find? fits := by
  cases commands with
  | nil => cases h
  | cons first others =>
    by_cases hfirst : fits first = true
    · rw [List.findIdx?_cons, if_pos hfirst] at h
      cases h
      omega
    · rw [List.find?_cons_of_neg hfirst, List.tail_cons]

/-- Where a test is passed first, there stands the command that is found. -/
theorem find?_of_findIdx? {position : Nat} (h : commands.findIdx? fits = some position) :
    ∃ found, commands[position]? = some found ∧ commands.find? fits = some found := by
  obtain ⟨hlt, hfits, hfirst⟩ := List.findIdx?_eq_some_iff_getElem.1 h
  refine ⟨commands[position], List.getElem?_eq_getElem hlt,
    List.find?_eq_some_iff_getElem.2 ⟨hfits, position, hlt, rfl, fun other hother => ?_⟩⟩
  simpa using hfirst other hother

/-- A command that passes the test is still found when another one comes behind it. -/
theorem find?_concat_of_some {found : String} (h : commands.find? fits = some found)
    (command : String) : (commands ++ [command]).find? fits = some found := by
  rw [List.find?_append, h, Option.some_or]

/-- Where no command passes the test, only the new one can be found. -/
theorem find?_newest_concat_of_none {window : Nat} (hwindow : 1 ≤ window)
    (h : commands.find? fits = none) (command : String) :
    (newest window (commands ++ [command])).find? fits =
      if fits command then some command else none := by
  obtain ⟨others, rfl⟩ : ∃ others, window = others + 1 := ⟨window - 1, by omega⟩
  have hnone : (newest others commands).find? fits = none := by
    rw [List.find?_eq_none] at h ⊢
    exact fun other hother => h other (List.mem_of_mem_drop hother)
  rw [newest_succ_concat, List.find?_append, hnone, Option.none_or, List.find?_singleton]

/-- A full record loses its oldest command to a new one. -/
theorem newest_concat_of_full {window : Nat} (hwindow : 1 ≤ window)
    (h : commands.length = window) (command : String) :
    newest window (commands ++ [command]) = commands.tail ++ [command] := by
  rw [newest_concat hwindow (Nat.le_of_eq h.symm), newest_of_length_le (Nat.le_of_eq h)]

theorem length_newest_concat_of_full {window : Nat} (h : commands.length = window)
    (command : String) :
    (newest window (commands ++ [command])).length = commands.length := by
  rw [length_newest, List.length_append, List.length_singleton]
  omega

/-- A record that is not full keeps all its commands. -/
theorem newest_concat_of_room {window : Nat} (h : commands.length < window) (command : String) :
    newest window (commands ++ [command]) = commands ++ [command] := by
  apply newest_of_length_le
  rw [List.length_append, List.length_singleton]
  omega

/-! ## Positive numbers -/

/-- While there is room every number keeps its command. -/
theorem resolveIn_ofNat_room {number : Nat} (hlength : commands.length + 1 < 2 ^ 63)
    (hpos : 1 ≤ number) (h : number ≤ commands.length) (command : String) :
    ∃ found, resolveIn commands (.index (Int64.ofNat number)) = .ok found ∧
      resolveIn (commands ++ [command]) (.index (Int64.ofNat number)) = .ok found := by
  have hlt : number - 1 < commands.length := by omega
  have hfound : commands[number - 1]? = some commands[number - 1] := List.getElem?_eq_getElem hlt
  refine ⟨commands[number - 1], resolveIn_ofNat (by omega) hpos hfound,
    resolveIn_ofNat ?_ hpos ?_⟩
  · rwa [List.length_append, List.length_singleton]
  · rwa [List.getElem?_append_left hlt]

/-- When the oldest command is dropped, a number names what the next one named. -/
theorem resolveIn_ofNat_full {number : Nat} (hlength : commands.length < 2 ^ 63)
    (hpos : 1 ≤ number) (h : number < commands.length) (command : String) :
    ∃ found, resolveIn commands (.index (Int64.ofNat (number + 1))) = .ok found ∧
      resolveIn (commands.tail ++ [command]) (.index (Int64.ofNat number)) = .ok found := by
  have hfound : commands[number]? = some commands[number] := List.getElem?_eq_getElem h
  have hmoved : (commands.tail ++ [command])[number - 1]? = some commands[number] := by
    rw [List.getElem?_append_left (by rw [List.length_tail]; omega), List.getElem?_tail,
      Nat.sub_add_cancel hpos, hfound]
  refine ⟨commands[number], resolveIn_ofNat hlength (by omega) hfound,
    resolveIn_ofNat ?_ hpos hmoved⟩
  rw [List.length_append, List.length_tail, List.length_singleton]
  omega

/-- The greatest number names the new command. -/
theorem resolveIn_ofNat_newest (hlength : commands.length < 2 ^ 63) (hpos : 1 ≤ commands.length)
    (command : String) :
    resolveIn (commands.tail ++ [command]) (.index (Int64.ofNat commands.length)) =
      .ok command := by
  have htail : commands.tail.length = commands.length - 1 := List.length_tail
  have hlast : (commands.tail ++ [command])[commands.length - 1]? = some command := by
    rw [← htail, List.getElem?_concat_length]
  refine resolveIn_ofNat ?_ hpos hlast
  rw [List.length_append, htail, List.length_singleton]
  omega

end

namespace Archive

/-- No change makes a record longer than the window. -/
theorem length_le_of_carryAll {answer : (session command : String) → Except Failure Output}
    {window : Nat} {changes : List Change} {session : String} {record : Record}
    (h : ((empty window).carryAll answer changes).get? session = some record) :
    record.commands.length ≤ window := by
  have hasked := @getD_record? window changes session
  rw [← (get?_carryAll answer window changes).2, h, Option.getD_some] at hasked
  rw [hasked]
  exact length_newest_le _ _

section

variable {archive : Archive} {session : String} {record : Record}
  (hrecord : archive.get? session = some record) (command : String)

include hrecord

theorem get?_push_of_get? :
    (archive.push session command).get? session =
      some ⟨record.session, newest archive.window (record.commands ++ [command])⟩ := by
  rw [get?_push_self, hrecord]
  rfl

theorem length_push :
    (archive.push session command).length session =
      (newest archive.window (record.commands ++ [command])).length := by
  rw [Archive.length, get?_push_of_get? hrecord]
  rfl

/-- What an expression refers to once a command was pushed. -/
theorem resolve_get?_push (expression : Expression) :
    resolve session ((archive.push session command).get? session) expression =
      resolveIn (newest archive.window (record.commands ++ [command])) expression := by
  rw [get?_push_of_get? hrecord]
  rfl

end

/-- **A lookup changes only when what it named is dropped.** Take any session's record after any
changes, under a window for one command at least, and push a command. As long as the record is not
full, every token finds what it found before. In a full record a token that named any position but
the first finds the same command, and one that named the first finds the oldest one that passes its
test among the others and the new one, if there is any. A token that found nothing finds the new
command if that passes its test, and nothing otherwise. Positive numbers, as far as signed words can
count the commands, keep their commands while there is room, and move on by one when there is
none. -/
theorem resolve_push (answer : (session command : String) → Except Failure Output) {window : Nat}
    (hwindow : 1 ≤ window) (changes : List Change) {session : String} {record : Record}
    (hrecord : ((empty window).carryAll answer changes).get? session = some record)
    (command : String) :
    let archive := (empty window).carryAll answer changes
    let pushed := archive.push session command
    let before := resolve session (archive.get? session)
    let after := resolve session (pushed.get? session)
    record.length ≤ window ∧
    (∀ expression fits, expression.fits? = some fits →
      (record.length < window →
        ∀ found, before expression = .ok found → after expression = .ok found) ∧
      (record.length = window → ∀ position, record.commands.findIdx? fits = some position →
        ∃ found, record.commands[position]? = some found ∧ before expression = .ok found ∧
          (0 < position → after expression = .ok found) ∧
          (position = 0 → after expression =
            ((record.commands.tail ++ [command]).find? fits).elim
              (.error (.commandNotFound expression.typed)) .ok)) ∧
      ((∃ failure, before expression = .error failure) →
        ∀ found, after expression = .ok found ↔ fits command = true ∧ found = command)) ∧
    (pushed.length session < 2 ^ 63 → ∀ number : Nat, 1 ≤ number →
      (record.length < window → number ≤ record.length →
        ∃ found, before (.index (Int64.ofNat number)) = .ok found ∧
          after (.index (Int64.ofNat number)) = .ok found) ∧
      (record.length = window → number < window →
        ∃ found, before (.index (Int64.ofNat (number + 1))) = .ok found ∧
          after (.index (Int64.ofNat number)) = .ok found) ∧
      (record.length = window → number = window →
        after (.index (Int64.ofNat number)) = .ok command)) := by
  intro archive pushed before after
  have hbound : archive.window = window := (get?_carryAll answer window changes).1
  have hbefore (expression : Expression) :
      before expression = resolveIn record.commands expression := by
    show resolve session (archive.get? session) expression = _
    rw [hrecord]
    rfl
  have hafter (expression : Expression) : after expression =
      resolveIn (newest window (record.commands ++ [command])) expression := by
    rw [← hbound]
    exact resolve_get?_push hrecord command expression
  have hlength : pushed.length session =
      (newest window (record.commands ++ [command])).length := by
    rw [← hbound]
    exact length_push hrecord command
  refine ⟨length_le_of_carryAll hrecord, fun expression fits hfits => ⟨fun hroom found hfound => ?_,
    fun hfull position hposition => ?_, fun ⟨failure, hfailure⟩ found => ?_⟩,
    fun hcounted number hpos => ⟨fun hroom hnumber => ?_, fun hfull hnumber => ?_,
      fun hfull hnumber => ?_⟩⟩
  · rw [hbefore, resolveIn_eq_ok_iff hfits] at hfound
    rw [hafter, newest_concat_of_room hroom, resolveIn_eq_ok_iff hfits]
    exact find?_concat_of_some hfound command
  · obtain ⟨found, hcommand, hfound⟩ := find?_of_findIdx? hposition
    refine ⟨found, hcommand, ?_, fun hlater => ?_, fun _ => ?_⟩
    · rwa [hbefore, resolveIn_eq_ok_iff hfits]
    · rw [hafter, newest_concat_of_full hwindow hfull, resolveIn_eq_ok_iff hfits]
      apply find?_concat_of_some
      rwa [find?_tail_of_findIdx? hposition hlater]
    · rw [hafter, newest_concat_of_full hwindow hfull, resolveIn_of_fits hfits]
  · rw [hbefore] at hfailure
    have hnone := find?_of_resolveIn_error hfits hfailure
    rw [hafter, resolveIn_eq_ok_iff hfits, find?_newest_concat_of_none hwindow hnone,
      Option.ite_none_right_eq_some, Option.some.injEq, eq_comm (a := command)]
  · rw [hlength, newest_concat_of_room hroom, List.length_append, List.length_singleton]
      at hcounted
    simp only [hbefore, hafter, newest_concat_of_room hroom]
    exact resolveIn_ofNat_room hcounted hpos hnumber command
  · rw [hlength, length_newest_concat_of_full hfull] at hcounted
    simp only [hbefore, hafter, newest_concat_of_full hwindow hfull]
    exact resolveIn_ofNat_full hcounted hpos (Nat.lt_of_lt_of_eq hnumber hfull.symm) command
  · rw [hlength, length_newest_concat_of_full hfull] at hcounted
    rw [hafter, newest_concat_of_full hwindow hfull, hnumber, ← hfull]
    exact resolveIn_ofNat_newest hcounted (Nat.le_trans hwindow (Nat.le_of_eq hfull.symm)) command

/-- A full record that was cut when it was restored. Its first command is dropped: one token finds
the new command in its place and another one finds nothing any more. -/
theorem resolve_push_full :
    let changes : List Change := [.restore [⟨"s", ["cd", "git log", "ls"]⟩], .push "t" "grep y"]
    let archive := (empty 2).carryAll (fun _ _ => .ok ⟨"", "", 0⟩) changes
    let after := resolve "s" ((archive.push "s" "grep x").get? "s")
    1 ≤ 2 ∧ archive.get? "s" = some ⟨"s", ["git log", "ls"]⟩ ∧
      after (.beginning "g") = .ok "grep x" ∧
      after (.containing "log") = .error (.commandNotFound "?log") ∧
      after (.beginning "l") = .ok "ls" ∧
      after (.index 2) = .ok "grep x" := by
  intro changes archive after
  have hwindow : 1 ≤ 2 := by decide
  have hrecord : archive.get? "s" = some ⟨"s", ["git log", "ls"]⟩ := by decide +kernel
  obtain ⟨-, htokens, hnumbers⟩ := resolve_push (fun _ _ => .ok ⟨"", "", 0⟩) hwindow changes hrecord
    "grep x"
  obtain ⟨_, -, -, -, hfirst⟩ :=
    (htokens (.beginning "g") (beginsWith "g") rfl).2.1 rfl 0 (by decide +kernel)
  obtain ⟨_, -, -, -, hdropped⟩ :=
    (htokens (.containing "log") (holds "log") rfl).2.1 rfl 0 (by decide +kernel)
  obtain ⟨_, hfound, -, hkept, -⟩ :=
    (htokens (.beginning "l") (beginsWith "l") rfl).2.1 rfl 1 (by decide +kernel)
  refine ⟨hwindow, hrecord, ?_, ?_, ?_, ?_⟩
  · exact (hfirst rfl).trans (by decide +kernel)
  · exact (hdropped rfl).trans (by decide +kernel)
  · cases hfound
    exact hkept (by decide)
  · exact (hnumbers (by decide +kernel) 2 (by decide)).2.2 rfl rfl

end Archive

end HistoryExpansion
