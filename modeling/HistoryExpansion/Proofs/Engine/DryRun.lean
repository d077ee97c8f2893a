import HistoryExpansion.Proofs.Engine.Relay
import HistoryExpansion.Proofs.Message

/-!
# Dry runs

There are two ways to ask what a message would do: to expand it, and to send it with the print
suffix. Neither keeps a command nor runs one (`resolveMessage_asks`), and both tell what the message
itself comes to in the same world. The print suffix changes nothing else about a message
(`expansion?_append_suffix`), so a message with it is answered by what expanding the message without
it gives (`handle_append_suffix`). The two ways are compared with the real run in
`expand_foretells`.
-/

namespace HistoryExpansion

open Backend (Call Refusals)

/-! ## The print suffix -/

namespace Message

/-- A trimmed message and the same message with the print suffix differ in nothing else. -/
theorem read?_append_suffix {trigger text body : String} (h : Text.trim text = trigger ++ body)
    (hsuffix : ¬":p".toList <:+ body.toList) :
    read? trigger (Text.trim text) = some ⟨Expression.classify body, false⟩ ∧
      read? trigger (Text.trim text ++ ":p") = some ⟨Expression.classify body, true⟩ := by
  have htext : Text.trimmed text.toList = trigger.toList ++ body.toList := by
    rw [← String.toList_append, ← h, Text.trim, String.toList_ofList]
  refine ⟨read?_eq_some_iff.2 ⟨body.toList, ?_, ?_⟩,
    read?_eq_some_iff.2 ⟨body.toList ++ printSuffix, ?_, ?_⟩⟩
  · rw [Text.trim, String.toList_ofList, Text.trimmed_trimmed, htext]
  · exact ofBody_ofList_eq_iff.2 ⟨body.toList, (List.append_nil _).symm, rfl, fun _ => hsuffix⟩
  · have hprint : ∀ c ∈ printSuffix, Text.isBlank c = false :=
      List.forall_mem_cons.2 ⟨rfl, List.forall_mem_singleton.2 rfl⟩
    have hkept := Text.trimmed_trimmed_append hprint (List.cons_ne_nil _ _) text.toList
    rw [String.toList_append, Text.trim, String.toList_ofList, ← List.append_assoc, ← htext]
    exact hkept
  · exact ofBody_ofList_eq_iff.2 ⟨body.toList, rfl, rfl, by rintro ⟨⟩⟩

theorem expansion?_append_suffix {trigger text body : String}
    (h : Text.trim text = trigger ++ body) (hsuffix : ¬":p".toList <:+ body.toList) :
    (expansion? trigger (Text.trim text) = none ∧
        expansion? trigger (Text.trim text ++ ":p") = none) ∨
      ∃ expression, expansion? trigger (Text.trim text) = some ⟨expression, false⟩ ∧
        expansion? trigger (Text.trim text ++ ":p") = some ⟨expression, true⟩ := by
  obtain ⟨hplain, hprint⟩ := read?_append_suffix h hsuffix
  unfold expansion?
  rw [hplain, hprint]
  cases hexpansion : (Expression.classify body).isExpansion with
  | false =>
    refine .inl ⟨?_, ?_⟩
    · simp only [Option.filter_some, hexpansion, Bool.false_eq_true, ↓reduceIte]
    · simp only [Option.filter_some, hexpansion, Bool.false_eq_true, ↓reduceIte]
  | true =>
    refine .inr ⟨Expression.classify body, ?_, ?_⟩
    · simp only [Option.filter_some, hexpansion, ↓reduceIte]
    · simp only [Option.filter_some, hexpansion, ↓reduceIte]

end Message

/-- No command was run where the record alone was asked for. -/
theorem Backend.ran_eq_nil {calls : List Call} {session : String}
    (h : ∀ call ∈ calls, call = .fetch session) : ran calls = [] := by
  refine List.filterMap_eq_nil_iff.2 fun call hcall => ?_
  rw [h call hcall]

namespace Engine

variable {World : Type} (engine : Engine World)

/-- A message with the print suffix is answered by what the message without it expands to. -/
theorem handle_append_suffix {text body : String} (h : Text.trim text = engine.trigger ++ body)
    (hsuffix : ¬":p".toList <:+ body.toList) (session : String) (world : World) :
    engine.handle session (Text.trim text ++ ":p") world =
      ((engine.expand session (Text.trim text) world).1.map fun found =>
          found.elim .passThrough .printed,
        (engine.expand session (Text.trim text) world).2) := by
  rcases Message.expansion?_append_suffix h hsuffix with ⟨hplain, hprint⟩ | ⟨asked, hplain, hprint⟩
  · have hexpand : engine.expand session (Text.trim text) world = _ :=
      engine.expand_of_resolved (engine.resolveMessage_of_none hplain world)
    rw [hexpand]
    exact engine.handle_of_none (engine.resolveMessage_of_none hprint world)
  · have hexpand : engine.expand session (Text.trim text) world = _ :=
      engine.expand_of_resolved (engine.resolveMessage_of_some hplain world)
    have hresolved : engine.resolveMessage session (Text.trim text ++ ":p") world = _ :=
      engine.resolveMessage_of_some hprint world
    rw [hexpand]
    cases hfound : (engine.backend.fetch session world).1.bind fun record =>
        resolve session record asked with
    | error failure =>
      simp only [hfound, Except.map] at hresolved ⊢
      exact engine.handle_of_error hresolved
    | ok command =>
      simp only [hfound, Except.map] at hresolved ⊢
      exact engine.handle_of_some hresolved

/-- Looking a command up asks for nothing but the record, once it is needed. -/
theorem resolveMessage_asks (session text : String) (world : World) :
    ∃ found left calls,
      engine.journaled.resolveMessage session text (world, []) = (found, (left, calls)) ∧
        (∀ call ∈ calls, call = .fetch session) ∧
        (left = (engine.backend.fetch session world).2 ∨ left = world ∧ found = .ok none) := by
  cases hasked : Message.expansion? engine.trigger text with
  | none =>
    exact ⟨_, world, [], engine.journaled.resolveMessage_of_none hasked _,
      fun _ h => absurd h List.not_mem_nil,
      .inr ⟨rfl, rfl⟩⟩
  | some asked =>
    exact ⟨_, _, [.fetch session], engine.resolveMessage_journaled hasked world [],
      fun call hcall => List.mem_singleton.1 hcall, .inl rfl⟩

/-- What expanding a text gives decides what handling it comes to, and the other way round. -/
theorem expand_iff_handle (session text : String) (world : World) :
    let dry := engine.journaled.expand session text (world, [])
    let real := engine.journaled.handle session text (world, [])
    let ran (command : String) :=
      let kept := engine.backend.append session command (engine.backend.fetch session world).2
      (engine.backend.run session command kept.2).1
    (dry.1 = .ok none ↔ real.1 = .ok .passThrough) ∧
    (∀ command, dry.1 = .ok (some command) ↔
      real.1 = .ok (.printed command) ∨
        Backend.ran real.2.2 = [(session, command)] ∧
          real.1 = (ran command).map (.executed command)) ∧
    ∀ failure, dry.1 = .error failure ↔
      real.1 = .error failure ∧ ∀ call ∈ real.2.2, call = .fetch session := by
  intro dry real ran
  obtain ⟨found, left, calls, hresolved, hcalls, hleft⟩ :=
    engine.resolveMessage_asks session text world
  have hnone : Backend.ran calls = [] := Backend.ran_eq_nil hcalls
  have hquiet (command : String) : Backend.ran calls ≠ [(session, command)] := by
    rw [hnone]
    exact (List.cons_ne_nil _ _).symm
  have hdry : dry = _ := engine.journaled.expand_of_resolved hresolved
  rw [hdry]
  rcases found with failure | _ | ⟨command, printOnly⟩
  · have hreal : real = _ := engine.journaled.handle_of_error hresolved
    rw [hreal]
    refine ⟨iff_of_false (by rintro ⟨⟩) (by rintro ⟨⟩), fun command => ?_, fun other => ?_⟩
    · refine iff_of_false (by rintro ⟨⟩) ?_
      rintro (h | ⟨h, -⟩)
      · cases h
      · exact hquiet command h
    · exact ⟨fun h => ⟨by cases h; rfl, hcalls⟩, fun h => by cases h.1; rfl⟩
  · have hreal : real = _ := engine.journaled.handle_of_none hresolved
    rw [hreal]
    refine ⟨iff_of_true rfl rfl, fun command => ?_, fun other => ?_⟩
    · refine iff_of_false (by rintro ⟨⟩) ?_
      rintro (h | ⟨h, -⟩)
      · cases h
      · exact hquiet command h
    · exact iff_of_false (by rintro ⟨⟩) (by rintro ⟨⟨⟩, -⟩)
  · obtain rfl : left = (engine.backend.fetch session world).2 :=
      hleft.resolve_right (by rintro ⟨-, ⟨⟩⟩)
    have hreal : real = _ := engine.journaled.handle_of_some hresolved
    cases printOnly with
    | true =>
      rw [dispatch, if_pos rfl] at hreal
      rw [hreal]
      refine ⟨iff_of_false (by rintro ⟨⟩) (by rintro ⟨⟩), fun other => ⟨?_, ?_⟩, fun failure => ?_⟩
      · rintro ⟨⟩
        exact .inl rfl
      · rintro (h | ⟨h, -⟩)
        · cases h
          rfl
        · exact absurd h (hquiet other)
      · exact iff_of_false (by rintro ⟨⟩) (by rintro ⟨⟨⟩, -⟩)
    | false =>
      have hran : (engine.execute session command (engine.backend.fetch session world).2).1 =
          ran command := rfl
      rw [dispatch_run, execute_journaled, hran] at hreal
      have hanswer : real.1 = (ran command).map (.executed command) := by rw [hreal]
      have hcalled : Backend.ran real.2.2 = [(session, command)] := by
        rw [hreal, Backend.ran_append, hnone]
        rfl
      have hkept : .append session command ∈ real.2.2 := by
        rw [hreal]
        exact List.mem_append_right _ List.mem_cons_self
      have hexecuted {outcome : Outcome} (h : real.1 = .ok outcome) :
          ∃ output, outcome = .executed command output := by
        rw [hanswer] at h
        cases hout : ran command with
        | error failure =>
          rw [hout] at h
          cases h
        | ok output =>
          rw [hout] at h
          cases h
          exact ⟨output, rfl⟩
      refine ⟨iff_of_false (by rintro ⟨⟩) fun h => ?_, fun other => ⟨?_, ?_⟩, fun failure => ?_⟩
      · obtain ⟨output, ⟨⟩⟩ := hexecuted h
      · rintro ⟨⟩
        exact .inr ⟨hcalled, hanswer⟩
      · rintro (h | ⟨h, -⟩)
        · obtain ⟨output, ⟨⟩⟩ := hexecuted h
        · rw [hcalled] at h
          cases h
          rfl
      · exact iff_of_false (by rintro ⟨⟩) fun h => absurd (h.2 _ hkept) (by rintro ⟨⟩)

section

variable {Part : Type} {part : World → Part}
  (hfetch : ∀ session world, part (engine.backend.fetch session world).2 = part world)

include hfetch

/-- Expanding leaves everything alone that fetching a record leaves alone. -/
theorem expand_untouched (session text : String) (world : World) :
    part (engine.journaled.expand session text (world, [])).2.1 = part world ∧
      ∀ call ∈ (engine.journaled.expand session text (world, [])).2.2, call = .fetch session := by
  obtain ⟨found, left, calls, hresolved, hcalls, hleft⟩ :=
    engine.resolveMessage_asks session text world
  rw [engine.journaled.expand_of_resolved hresolved]
  refine ⟨?_, hcalls⟩
  rcases hleft with rfl | ⟨rfl, -⟩
  · exact hfetch session world
  · rfl

/-- **The dry runs tell what the real run does.** Whatever the services are: expanding a text gives
nothing exactly if the message passes through; it gives a command exactly if that command is
printed, or is the one command that is run and whose output or failure is the answer; and it fails
exactly if the message fails in the same way and only the record was asked for. A trimmed message
whose body does not end in the print suffix gives with that suffix what expanding it gives. In both
ways nothing but the record is asked for, and what fetching leaves alone stays as it is. -/
theorem expand_foretells (session text : String) (world : World) :
    let dry (text : String) := engine.journaled.expand session text (world, [])
    let real (text : String) := engine.journaled.handle session text (world, [])
    let ran (command : String) :=
      let kept := engine.backend.append session command (engine.backend.fetch session world).2
      (engine.backend.run session command kept.2).1
    ((dry text).1 = .ok none ↔ (real text).1 = .ok .passThrough) ∧
    (∀ command, (dry text).1 = .ok (some command) ↔
      (real text).1 = .ok (.printed command) ∨
        Backend.ran (real text).2.2 = [(session, command)] ∧
          (real text).1 = (ran command).map (.executed command)) ∧
    (∀ failure, (dry text).1 = .error failure ↔
      (real text).1 = .error failure ∧ ∀ call ∈ (real text).2.2, call = .fetch session) ∧
    (part (dry text).2.1 = part world ∧ ∀ call ∈ (dry text).2.2, call = .fetch session) ∧
    ∀ body, Text.trim text = engine.trigger ++ body → ¬":p".toList <:+ body.toList →
      let plain := dry (Text.trim text)
      let asked := real (Text.trim text ++ ":p")
      (asked.1 = .ok .passThrough ↔ plain.1 = .ok none) ∧
      (∀ command, asked.1 = .ok (.printed command) ↔ plain.1 = .ok (some command)) ∧
      (∀ failure, asked.1 = .error failure ↔ plain.1 = .error failure) ∧
      part asked.2.1 = part world ∧ ∀ call ∈ asked.2.2, call = .fetch session := by
  intro dry real ran
  obtain ⟨hnone, hsome, herror⟩ := engine.expand_iff_handle session text world
  refine ⟨hnone, hsome, herror, engine.expand_untouched hfetch session text world,
    fun body hbody hsuffix => ?_⟩
  intro plain asked
  have hasked : asked = (plain.1.map fun found => found.elim .passThrough .printed, plain.2) :=
    engine.journaled.handle_append_suffix hbody hsuffix session (world, [])
  obtain ⟨hpart, hcalls⟩ := engine.expand_untouched hfetch session (Text.trim text) world
  rw [hasked]
  refine ⟨?_, fun command => ?_, fun failure => ?_, hpart, hcalls⟩
  · rcases plain.1 with failure | _ | command
    · exact iff_of_false (by rintro ⟨⟩) (by rintro ⟨⟩)
    · exact iff_of_true rfl rfl
    · exact iff_of_false (by rintro ⟨⟩) (by rintro ⟨⟩)
  · rcases plain.1 with failure | _ | other
    · exact iff_of_false (by rintro ⟨⟩) (by rintro ⟨⟩)
    · exact iff_of_false (by rintro ⟨⟩) (by rintro ⟨⟩)
    · exact ⟨fun h => by cases h; rfl, fun h => by cases h; rfl⟩
  · rcases plain.1 with other | _ | command
    · exact ⟨fun h => by cases h; rfl, fun h => by cases h; rfl⟩
    · exact iff_of_false (by rintro ⟨⟩) (by rintro ⟨⟩)
    · exact iff_of_false (by rintro ⟨⟩) (by rintro ⟨⟩)

end

/-- A trigger that ends in the print suffix, and a command that fails when it is run. -/
theorem expand_foretells_failing :
    let engine : Engine (Archive × Refusals) :=
      ⟨"!:p", (Backend.inMemory fun _ command => .error (.execution command)).refusing⟩
    let world : Archive × Refusals := ((Archive.empty 5).push "s" "ls -l", {})
    (∀ session world, (engine.backend.fetch session world).2.1 = world.1) ∧
      Text.trim " !:pls " = "!:p" ++ "ls" ∧ ¬":p".toList <:+ "ls".toList ∧
      (engine.journaled.expand "s" " !:pls " (world, [])).1 = .ok (some "ls -l") ∧
      Backend.ran (engine.journaled.handle "s" " !:pls " (world, [])).2.2 = [("s", "ls -l")] ∧
      (engine.journaled.handle "s" " !:pls " (world, [])).1 = .error (.execution "ls -l") ∧
      (engine.journaled.handle "s" "!:pls:p" (world, [])).1 = .ok (.printed "ls -l") := by
  intro engine world
  have hfetch : ∀ session world, (engine.backend.fetch session world).2.1 = world.1 := by
    rintro session ⟨archive, ⟨_ | failure, append⟩⟩ <;> rfl
  have htrim : Text.trim " !:pls " = "!:p" ++ "ls" := by decide +kernel
  have hsuffix : ¬":p".toList <:+ "ls".toList := by decide +kernel
  have hasked : Message.expansion? "!:p" " !:pls " = some ⟨.beginning "ls", false⟩ := by
    decide +kernel
  have htrimmed : Message.expansion? "!:p" (Text.trim " !:pls ") =
      some ⟨.beginning "ls", false⟩ := by decide +kernel
  have hfound : (engine.backend.fetch "s" world).1.bind (resolve "s" · (.beginning "ls")) =
      .ok "ls -l" := by rfl
  have hdry : (engine.journaled.expand "s" " !:pls " (world, [])).1 = .ok (some "ls -l") := by
    rw [engine.journaled.expand_of_resolved (engine.resolveMessage_journaled hasked world []),
      hfound]
    rfl
  have hplain : (engine.journaled.expand "s" (Text.trim " !:pls ") (world, [])).1 =
      .ok (some "ls -l") := by
    rw [engine.journaled.expand_of_resolved (engine.resolveMessage_journaled htrimmed world []),
      hfound]
    rfl
  have hreal : (engine.journaled.handle "s" " !:pls " (world, [])).1 =
      .error (.execution "ls -l") := by
    have hresolved : engine.journaled.resolveMessage "s" " !:pls " (world, []) = _ :=
      engine.resolveMessage_journaled hasked world []
    rw [hfound] at hresolved
    rw [engine.journaled.handle_of_some hresolved]
    rfl
  obtain ⟨-, hsome, -, -, hform⟩ := engine.expand_foretells hfetch "s" " !:pls " world
  obtain ⟨-, hprinted, -⟩ := hform "ls" htrim hsuffix
  refine ⟨hfetch, htrim, hsuffix, hdry, ?_, hreal, (hprinted "ls -l").2 hplain⟩
  rcases (hsome "ls -l").1 hdry with h | ⟨hran, -⟩
  · rw [hreal] at h
    cases h
  · exact hran

end Engine

end HistoryExpansion
