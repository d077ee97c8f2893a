import HistoryExpansion.Proofs.Engine.Retention
import HistoryExpansion.Proofs.Lookup.Token

/-!
# Texts that cannot be expanded

Looking a command up fails in three ways: the session has no record, a number is outside the record,
or no command has the form that a token asks for. `Unresolved` lists the causes one by one, and
`resolve_eq_error_iff` says that there are no others. Through an engine nothing else can make an
expansion fail: `expand_error_iff`. Of the causes, the last command of an empty record is one that
no engine meets whose archive began empty and keeps a command at least (`occupied_run`).
-/

namespace HistoryExpansion

/-! ## Failed expansions -/

/-- The causes of a failed expansion are those with a key, and they are worded plainly. -/
theorem Failure.keyed_of_isExpansion {failure : Failure} (h : failure.isExpansion = true) :
    failure.messageKey?.isSome = true ∧ ¬"error: ".toList <+: failure.render.toList := by
  have hplain : ∀ text ∈ ["No history available.", "Invalid index.", "Command not found."],
      ¬"error: ".toList <+: text.toList := by decide +kernel
  cases failure with
  | noHistory session => exact ⟨rfl, hplain _ (.head _)⟩
  | invalidIndex index => exact ⟨rfl, hplain _ (.tail _ (.head _))⟩
  | commandNotFound pattern => exact ⟨rfl, hplain _ (.tail _ (.tail _ (.head _)))⟩
  | config _ | configMissing _ | configInvalid _ _ | execution _ | timeout _ | storage _ | io _
  | json _ | yaml => cases h

/-- The ways in which an expression, typed as a text, refers to no command of a session's record,
each with the failure that reports it. -/
inductive Unresolved (session : String) :
    (record : Option Record) → (body : String) → Expression → Failure → Prop
  /-- The session has no record. -/
  | noRecord {body : String} {expression : Expression} :
      Unresolved session none body expression (.noHistory session)
  /-- The number counts to no command, neither from the oldest one on nor from the newest one back.
  More commands than signed words can count fit into no memory; no number would count to them. -/
  | outside {record : Record} {body : String} {number : Int64}
      (h : record.commands.length < 2 ^ 63 →
        ¬(1 ≤ number.toInt ∧ number.toInt ≤ record.commands.length) ∧
          ¬(-record.commands.length ≤ number.toInt ∧ number.toInt ≤ -1)) :
      Unresolved session (some record) body (.index number) (.invalidIndex number)
  /-- There is no command to be the last one. -/
  | empty {record : Record} {body : String} (h : record.commands = []) :
      Unresolved session (some record) body .last (.invalidIndex 0)
  /-- No command is the token and some rest. -/
  | noBeginning {record : Record} {body token : String}
      (h : ∀ command ∈ record.commands, ∀ rest, command ≠ token ++ rest) :
      Unresolved session (some record) body (.beginning token) (.commandNotFound body)
  /-- No command is the token with something before and behind it. -/
  | noContaining {record : Record} {body token : String}
      (h : ∀ command ∈ record.commands, ∀ front back, command ≠ front ++ token ++ back) :
      Unresolved session (some record) body (.containing token) (.commandNotFound body)

/-- A token fails when no command has its form, and says what it is typed as. -/
theorem resolveIn_error_of_fits {expression : Expression} {fits : (command : String) → Bool}
    (h : expression.fits? = some fits) {commands : List String} {failure : Failure} :
    resolveIn commands expression = .error failure ↔
      (∀ command ∈ commands, ¬expression.Describes command) ∧
        failure = .commandNotFound expression.typed := by
  have hnone : commands.find? fits = none ↔
      ∀ command ∈ commands, ¬expression.Describes command := by
    simp only [List.find?_eq_none, Expression.fits_iff_describes h]
  rw [resolveIn_of_fits h, ← hnone]
  cases commands.find? fits with
  | none =>
    rw [Option.elim_none, Except.error.injEq, eq_comm, and_iff_right rfl]
  | some found => exact iff_of_false nofun fun hnot => nomatch hnot.1

/-- A number fails when it counts to no command. -/
theorem resolveIn_index_error_iff {commands : List String} {number : Int64} {failure : Failure} :
    resolveIn commands (.index number) = .error failure ↔
      (commands.length < 2 ^ 63 → ¬(1 ≤ number.toInt ∧ number.toInt ≤ commands.length) ∧
        ¬(-commands.length ≤ number.toInt ∧ number.toInt ≤ -1)) ∧
        failure = .invalidIndex number := by
  by_cases h : commands.length < 2 ^ 63 ∧ ∃ position, CountsTo number.toInt commands.length position
  · obtain ⟨hlength, position, hcounts⟩ := h
    have hlt : position < commands.length := hcounts.lt
    have hcommand : commands[position]? = some commands[position] := List.getElem?_eq_getElem hlt
    rw [resolveIn_index_of_countsTo hlength hcounts hcommand]
    refine iff_of_false nofun fun houtside => ?_
    unfold CountsTo at hcounts
    omega
  · rw [resolveIn_index_of_none fun hlength position hcounts => h ⟨hlength, position, hcounts⟩,
      Except.error.injEq, eq_comm]
    refine (and_iff_right fun hlength =>
      ⟨fun hforth => h ⟨hlength, number.toInt.toNat - 1, ?_⟩,
        fun hback => h ⟨hlength, (commands.length + number.toInt).toNat, ?_⟩⟩).symm
    · unfold CountsTo
      omega
    · unfold CountsTo
      omega

theorem resolveIn_last_error_iff {commands : List String} {failure : Failure} :
    resolveIn commands .last = .error failure ↔
      commands = [] ∧ failure = .invalidIndex 0 := by
  rw [resolveIn, ← List.getLast?_eq_none_iff]
  cases commands.getLast? with
  | none => rw [Option.elim_none, Except.error.injEq, eq_comm, and_iff_right rfl]
  | some command =>
    refine iff_of_false (fun h => ?_) fun hnone => ?_
    · cases h
    · cases hnone.1

/-- A token has no other form than the one in which it is typed. -/
theorem Expression.Writes.eq_typed_of_fits {body : String} {expression : Expression}
    (hbody : Writes body.toList expression) {fits : (command : String) → Bool}
    (h : expression.fits? = some fits) : body = expression.typed := by
  rcases hbody.eq_typed with htyped | ⟨number, -, rfl⟩
  · exact String.toList_inj.1 htyped
  · cases h

/-- **What is not resolved** fails for one of the causes, and says for which. -/
theorem resolve_eq_error_iff {session : String} {record : Option Record} {body : String}
    {expression : Expression} (hbody : Expression.Writes body.toList expression)
    {failure : Failure} :
    resolve session record expression = .error failure ↔
      Unresolved session record body expression failure := by
  cases record with
  | none =>
    rw [resolve, Except.error.injEq]
    constructor
    · rintro rfl
      exact .noRecord
    · rintro ⟨⟩
      rfl
  | some record =>
    show resolveIn record.commands expression = _ ↔ _
    cases expression with
    | last =>
      rw [resolveIn_last_error_iff]
      constructor
      · rintro ⟨hempty, rfl⟩
        exact .empty hempty
      · rintro ⟨⟩
        exact ⟨‹_›, rfl⟩
    | index number =>
      rw [resolveIn_index_error_iff]
      constructor
      · rintro ⟨houtside, rfl⟩
        exact .outside houtside
      · rintro ⟨⟩
        exact ⟨‹_›, rfl⟩
    | beginning token =>
      obtain rfl := hbody.eq_typed_of_fits rfl
      rw [resolveIn_error_of_fits rfl]
      constructor
      · rintro ⟨hnone, rfl⟩
        exact .noBeginning fun command hcommand rest heq => hnone command hcommand ⟨rest, heq⟩
      · rintro ⟨⟩
        next hnone =>
        refine ⟨fun command hcommand hdescribes => ?_, rfl⟩
        obtain ⟨rest, heq⟩ := hdescribes
        exact hnone command hcommand rest heq
    | containing token =>
      obtain rfl := hbody.eq_typed_of_fits rfl
      rw [resolveIn_error_of_fits rfl]
      constructor
      · rintro ⟨hnone, rfl⟩
        exact .noContaining fun command hcommand front back heq =>
          hnone command hcommand ⟨front, back, heq⟩
      · rintro ⟨⟩
        next hnone =>
        refine ⟨fun command hcommand hdescribes => ?_, rfl⟩
        obtain ⟨front, back, heq⟩ := hdescribes
        exact hnone command hcommand front back heq
    | plain => exact absurd hbody.isTypable id

/-- Whatever is looked up for an expression that refers to a command, the failure is that of an
expansion. -/
theorem isExpansion_of_resolve {session : String} {record : Option Record} {expression : Expression}
    (hexpansion : expression.isExpansion = true) {failure : Failure}
    (h : resolve session record expression = .error failure) : failure.isExpansion = true := by
  have hkept : ∀ {found : Option String} {other : Failure}, other.isExpansion = true →
      found.elim (.error other) Except.ok = .error failure → failure.isExpansion = true := by
    intro found other hother hfound
    cases found with
    | none =>
      cases hfound
      exact hother
    | some command => cases hfound
  cases record with
  | none =>
    cases h
    rfl
  | some record =>
    cases expression with
    | last => exact hkept rfl h
    | index number => exact hkept rfl h
    | beginning token => exact hkept rfl h
    | containing token => exact hkept rfl h
    | plain => cases hexpansion

/-- The body of a message that refers to a command is what stands between the trigger and the
suffix, and it writes the expression. -/
theorem Message.exists_body {trigger text : String} {expression : Expression} {printOnly : Bool}
    (h : read? trigger text = some ⟨expression, printOnly⟩)
    (hexpansion : expression.isExpansion = true) :
    ∃ body : String, Text.trim text = trigger ++ body ++ (if printOnly then ":p" else "") ∧
      Expression.Writes body.toList expression := by
  have hplain : expression ≠ .plain := by
    rintro rfl
    cases hexpansion
  obtain ⟨body, htext, hwrites, -⟩ := (read?_eq_some_iff_writes hplain).1 h
  refine ⟨String.ofList body, ?_, by rwa [String.toList_ofList]⟩
  have hsuffix : (if printOnly then ":p" else "").toList = suffix printOnly := by
    cases printOnly <;> rfl
  rw [← String.toList_inj, Text.trim, String.toList_ofList, htext, String.toList_append,
    String.toList_append, hsuffix, String.toList_ofList]

/-! ## Records without commands -/

namespace Archive

/-- No session has a record without commands. -/
def Occupied (archive : Archive) : Prop :=
  ∀ session record, archive.get? session = some record → record.commands ≠ []

theorem occupied_empty (window : Nat) : (empty window).Occupied := by
  intro session record hrecord
  rw [get?_empty] at hrecord
  cases hrecord

theorem Occupied.push {archive : Archive} (h : archive.Occupied) (hwindow : 1 ≤ archive.window)
    (session command : String) : (archive.push session command).Occupied := by
  intro other record hrecord
  by_cases hown : session = other
  · subst hown
    rw [get?_push_self] at hrecord
    obtain rfl := Option.some.inj hrecord
    obtain ⟨room, hroom⟩ : ∃ room, archive.window = room + 1 := ⟨archive.window - 1, by omega⟩
    show newest archive.window (_ ++ [command]) ≠ []
    rw [hroom, newest_succ_concat]
    exact List.append_ne_nil_of_right_ne_nil _ (List.cons_ne_nil _ _)
  · rw [get?_push_of_ne hown] at hrecord
    exact h other record hrecord

end Archive

namespace Engine

section

variable {World : Type} {engine : Engine World} {archive : World → Archive}
  (hserves : engine.backend.Serves archive) {world : World}

include hserves

/-- **No step leaves a record without commands** where a record may keep one. -/
theorem occupied_step (hwindow : 1 ≤ (archive world).window) (h : (archive world).Occupied)
    (step : Step) : (archive (engine.step step world).2).Occupied := by
  rw [archive_step hserves]
  cases (step.task engine.trigger (.ok ((archive world).get? step.session))).command? with
  | none => exact h
  | some command => exact h.push hwindow step.session command

theorem occupied_run (steps : List Step) (hwindow : 1 ≤ (archive world).window)
    (h : (archive world).Occupied) : (archive (engine.run steps world).2).Occupied := by
  induction steps generalizing world with
  | nil => exact h
  | cons step steps ih =>
    rw [run_cons]
    refine ih ?_ (occupied_step hserves hwindow h step)
    rwa [window_step hserves]

/-! ## Texts -/

/-- Expanding a text fails only if the text refers to a command, and as looking that up does. -/
theorem expand_error_iff_resolve {session text : String} {failure : Failure} :
    (engine.expand session text world).1 = .error failure ↔
      ∃ asked, Message.expansion? engine.trigger text = some asked ∧
        resolve session ((archive world).get? session) asked.expression = .error failure := by
  cases hasked : Message.expansion? engine.trigger text with
  | none =>
    rw [engine.expand_of_resolved (engine.resolveMessage_of_none hasked world)]
    exact iff_of_false nofun fun ⟨_, hnone, _⟩ => nomatch hnone
  | some asked =>
    rw [expand_of_expansion hserves hasked]
    simp only [Option.some.injEq, exists_eq_left']
    cases resolve session ((archive world).get? session) asked.expression with
    | error other => rw [Except.map, Except.error.injEq, Except.error.injEq]
    | ok command => exact iff_of_false nofun nofun

/-- Handling a message fails as expanding it does, or as running the command does that it expands
to. -/
theorem expand_error_or_execute_error {session text : String} {failure : Failure}
    (h : (engine.handle session text world).1 = .error failure) :
    (engine.expand session text world).1 = .error failure ∨
      ∃ command, (engine.expand session text world).1 = .ok (some command) ∧
        (engine.execute session command world).1 = .error failure := by
  have hresolved := resolveMessage_of_serves hserves session text world
  rw [engine.expand_of_resolved hresolved]
  generalize Step.resolved? engine.trigger session text (.ok ((archive world).get? session)) = found
    at hresolved
  rcases found with other | _ | ⟨command, printOnly⟩
  · rw [engine.handle_of_error hresolved] at h
    cases h
    exact .inl rfl
  · rw [engine.handle_of_none hresolved] at h
    cases h
  · rw [engine.handle_of_some hresolved] at h
    cases printOnly with
    | true => cases h
    | false =>
      rw [dispatch_run] at h
      refine .inr ⟨command, rfl, ?_⟩
      cases hran : (engine.execute session command world).1 with
      | error other =>
        rw [hran] at h
        cases h
        rfl
      | ok output =>
        rw [hran] at h
        cases h

/-- **Expansions fail for the causes that are listed, and for no others.** Whatever records an
archive holds and however commands are run, expanding a text fails exactly if the text is a message
that refers to a command and the session's record has none for it, and it fails with the cause. A
token that no command fits is reported as it was typed, without the trigger and the print suffix.
Every such failure has a key and is worded without the mark of other failures; so the complaint
about plain text is never heard, and a message that is handled can fail beyond this only as running
its command fails. Where the archive began without records and keeps a command at least, no record
is ever without commands, and the last command is never missing from a record. -/
theorem expand_error_iff (session text : String) (world : World) :
    let failed (failure : Failure) := (engine.expand session text world).1 = .error failure
    (∀ failure, failed failure ↔
      ∃ expression printOnly, ∃ body : String,
        Message.read? engine.trigger text = some ⟨expression, printOnly⟩ ∧
        expression.isExpansion = true ∧
        Text.trim text = engine.trigger ++ body ++ (if printOnly then ":p" else "") ∧
        Unresolved session ((archive world).get? session) body expression failure) ∧
    (∀ failure, failed failure → failure.isExpansion = true ∧
      failure.messageKey?.isSome = true ∧ ¬"error: ".toList <+: failure.render.toList) ∧
    (∀ failure, (engine.handle session text world).1 = .error failure →
      failed failure ∨
        ∃ command, (engine.expand session text world).1 = .ok (some command) ∧
          (engine.execute session command world).1 = .error failure) ∧
    ∀ window start past, 1 ≤ window → archive start = Archive.empty window →
      (engine.run past start).2 = world →
        (∀ session record, (archive world).get? session = some record → record.commands ≠ []) ∧
        ∀ printOnly, Message.read? engine.trigger text = some ⟨.last, printOnly⟩ →
          ∀ number, ¬failed (.invalidIndex number) := by
  intro failed
  have hfailed (failure : Failure) : failed failure ↔ _ := expand_error_iff_resolve hserves
  have hasked (asked : Message) : Message.expansion? engine.trigger text = some asked ↔ _ :=
    Option.filter_eq_some_iff
  refine ⟨fun failure => ?_, fun failure h => ?_,
    fun failure h => expand_error_or_execute_error hserves h,
    fun window start past hwindow hempty hworld => ?_⟩
  · simp only [hfailed, hasked]
    constructor
    · rintro ⟨⟨expression, printOnly⟩, ⟨hread, hexpansion⟩, hresolve⟩
      obtain ⟨body, htext, hwrites⟩ := Message.exists_body hread hexpansion
      exact ⟨expression, printOnly, body, hread, hexpansion, htext,
        (resolve_eq_error_iff hwrites).1 hresolve⟩
    · rintro ⟨expression, printOnly, typed, hread, hexpansion, htyped, hunresolved⟩
      obtain ⟨body, htext, hwrites⟩ := Message.exists_body hread hexpansion
      obtain rfl : typed = body := by
        have hboth := congrArg String.toList (htyped.symm.trans htext)
        simp only [String.toList_append, List.append_cancel_left_eq,
          List.append_cancel_right_eq] at hboth
        exact String.toList_inj.1 hboth
      exact ⟨_, ⟨hread, hexpansion⟩, (resolve_eq_error_iff hwrites).2 hunresolved⟩
  · obtain ⟨asked, hexpansion, hresolve⟩ := (hfailed failure).1 h
    have hfailure := isExpansion_of_resolve ((hasked asked).1 hexpansion).2 hresolve
    exact ⟨hfailure, Failure.keyed_of_isExpansion hfailure⟩
  · have hoccupied : (archive world).Occupied := by
      rw [← hworld]
      refine occupied_run hserves past ?_ ?_
      · rwa [hempty]
      · rw [hempty]
        exact Archive.occupied_empty window
    refine ⟨hoccupied, fun printOnly hread number h => ?_⟩
    obtain ⟨asked, hexpansion, hresolve⟩ := (hfailed _).1 h
    obtain rfl := Option.some.inj (hread.symm.trans ((hasked asked).1 hexpansion).1)
    cases hrecord : (archive world).get? session with
    | none =>
      rw [hrecord] at hresolve
      cases hresolve
    | some record =>
      rw [hrecord] at hresolve
      exact hoccupied session record hrecord (resolveIn_last_error_iff.1 hresolve).1

end

/-- A record that was restored without commands has no last one; a token of another record is
reported without the suffix; and a window for one command is enough for the last one to be there
whenever there is a record. -/
theorem expand_error_iff_restored :
    let engine := inMemory "!" fun _ command => .error (.execution command)
    let restored := (Archive.empty 2).restore [⟨"e", []⟩, ⟨"s", ["ls", "cd"]⟩]
    let past : List Step := [.execute "s" "ls", .message "s" "!!", .expand "t" "!1"]
    let run := (engine.run past (Archive.empty 1)).2
    engine.backend.Serves id ∧
      (engine.expand "e" "!!" restored).1 = .error (.invalidIndex 0) ∧
      (engine.expand "s" " !?mk:p\t" restored).1 = .error (.commandNotFound "?mk") ∧
      1 ≤ 1 ∧ Message.read? "!" "!!" = some ⟨.last, false⟩ ∧
      ∀ number, (engine.expand "t" "!!" run).1 ≠ .error (.invalidIndex number) := by
  intro engine restored past run
  have hserves : engine.backend.Serves id := Backend.serves_inMemory _
  have hlast : Message.read? "!" "!!" = some ⟨.last, false⟩ := by decide +kernel
  have htoken : Message.read? "!" " !?mk:p\t" = some ⟨.containing "mk", true⟩ := by decide +kernel
  obtain ⟨hempty, -⟩ := expand_error_iff hserves "e" "!!" restored
  obtain ⟨hunmatched, -⟩ := expand_error_iff hserves "s" " !?mk:p\t" restored
  obtain ⟨-, -, -, hkept⟩ := expand_error_iff hserves "t" "!!" run
  refine ⟨hserves, ?_, ?_, Nat.le_refl 1, hlast,
    (hkept 1 (Archive.empty 1) past (Nat.le_refl 1) rfl rfl).2 false hlast⟩
  · refine (hempty _).2 ⟨.last, false, "!", hlast, rfl, by decide +kernel, ?_⟩
    have hrecord : restored.get? "e" = some ⟨"e", []⟩ := by decide +kernel
    rw [id, hrecord]
    exact .empty rfl
  · refine (hunmatched _).2 ⟨.containing "mk", true, "?mk", htoken, rfl,
      by decide +kernel, ?_⟩
    have hrecord : restored.get? "s" = some ⟨"s", ["ls", "cd"]⟩ := by decide +kernel
    have hnone : ∀ command ∈ ["ls", "cd"], ¬holds "mk" command = true := by decide +kernel
    rw [id, hrecord]
    refine .noContaining fun command hcommand front back heq => hnone command hcommand ?_
    exact Expression.holds_eq_true_iff.2 ⟨front, back, heq⟩

end Engine

end HistoryExpansion
