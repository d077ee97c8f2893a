import HistoryExpansion.Proofs.Engine.Records
import HistoryExpansion.Proofs.Repl.Loop

/-!
# Where the commands of the loop come from

A command that is looked up comes out of the session's record (`mem_commandsOf_of_resolve`), and a
line that refers to no command is handed over as it stands. So all that is ever run, and all that a
record ever holds, was in the record before or was typed: `sound_handleAll`. To see this at every
moment, `Backend.watched` notes each request to keep or to run a command together with the world
that the request leaves.
-/

namespace HistoryExpansion

open Backend (Call)

/-! ## Moments -/

/-- A moment of a run: a request to keep or to run a command, and the world that it leaves. -/
structure Moment (World : Type) where
  /-- The request. -/
  call : Call
  /-- The world behind it. -/
  world : World

/-- A backend that notes the moments at which commands are kept or run, newest last. -/
def Backend.watched {World : Type} (backend : Backend World) :
    Backend (World × List (Moment World)) where
  fetch session world :=
    let (answer, rest) := backend.fetch session world.1
    (answer, (rest, world.2))
  append session command world :=
    let (answer, rest) := backend.append session command world.1
    (answer, (rest, world.2 ++ [⟨.append session command, rest⟩]))
  run session command world :=
    let (answer, rest) := backend.run session command world.1
    (answer, (rest, world.2 ++ [⟨.run session command, rest⟩]))

/-- The moments that a task comes to. -/
def Task.moments {World : Type} (backend : Backend World) (session : String) :
    Task → World → List (Moment World)
  | reply _, _ => []
  | keep command, world =>
    [⟨.append session command, (backend.append session command world).2⟩]
  | perform command _, world =>
    let kept := (backend.append session command world).2
    [⟨.append session command, kept⟩,
      ⟨.run session command, (backend.run session command kept).2⟩]

theorem Task.carry_watched {World : Type} (backend : Backend World) (session : String) (task : Task)
    (world : World) (moments : List (Moment World)) :
    task.carry backend.watched session (world, moments) =
      ((task.carry backend session world).1,
        ((task.carry backend session world).2, moments ++ task.moments backend session world)) := by
  cases task with
  | reply answer => simp only [carry, Task.moments, List.append_nil]
  | keep command => rfl
  | perform command wrap =>
    show (_, (_, moments ++ [_] ++ [_])) = _
    rw [List.append_assoc]
    rfl

namespace Engine

variable {World : Type} (engine : Engine World)

/-- The engine with its moments noted. -/
def watched : Engine (World × List (Moment World)) :=
  ⟨engine.trigger, engine.backend.watched⟩

theorem consult_watched (step : Step) (world : World) (moments : List (Moment World)) :
    engine.watched.consult step (world, moments) =
      ((engine.consult step world).1, ((engine.consult step world).2, moments)) := by
  unfold consult watched
  cases step.consults engine.trigger <;> rfl

/-- A step adds the moments of its task. -/
theorem step_watched (step : Step) (world : World) (moments : List (Moment World)) :
    engine.watched.step step (world, moments) =
      ((engine.step step world).1,
        ((engine.step step world).2,
          moments ++ (engine.taskIn step world).moments engine.backend step.session
            (engine.consult step world).2)) := by
  rw [step_eq_carry, step_eq_carry, consult_watched]
  exact Task.carry_watched _ _ _ _ _

theorem observes_watched : engine.watched.Observes engine :=
  ⟨rfl, fun step world moments => by rw [step_watched],
    fun step world moments => by rw [step_watched]⟩

end Engine

/-! ## Records and what is looked up in them -/

/-- The commands of a session's record; none if it has no record. -/
def Archive.commandsOf (archive : Archive) (session : String) : List String :=
  (archive.get? session).elim [] Record.commands

theorem Archive.commandsOf_eq (archive : Archive) (session : String) :
    archive.commandsOf session = ((archive.get? session).getD ⟨session, []⟩).commands := by
  rw [commandsOf]
  cases archive.get? session <;> rfl

theorem Archive.mem_commandsOf_push {archive : Archive} {session new command : String}
    (h : command ∈ (archive.push session new).commandsOf session) :
    command ∈ archive.commandsOf session ∨ command = new := by
  rw [commandsOf, get?_push_self] at h
  rcases List.mem_append.1 (List.mem_of_mem_drop h) with hold | hnew
  · exact .inl (archive.commandsOf_eq session ▸ hold)
  · exact .inr (List.mem_singleton.1 hnew)

theorem mem_of_resolveIn {commands : List String} {expression : Expression} {command : String}
    (h : resolveIn commands expression = .ok command) : command ∈ commands := by
  have hfound : ∀ {found : Option String} {failure : Failure},
      found.elim (.error failure) Except.ok = .ok command → found = some command := by
    intro found failure h
    cases found with
    | none => cases h
    | some other => exact congrArg some (Except.ok.inj h)
  cases expression with
  | last => exact List.mem_of_getLast? (hfound h)
  | index number =>
    have hat := hfound h
    unfold commandAt? at hat
    split at hat
    · obtain ⟨position, -, hcommand⟩ := Option.bind_eq_some_iff.1 hat
      exact List.mem_of_getElem? hcommand
    · cases hat
  | beginning token => exact List.mem_of_find?_eq_some (hfound h)
  | containing token => exact List.mem_of_find?_eq_some (hfound h)
  | plain => cases h

/-- A command that is looked up is one of the record. -/
theorem Archive.mem_commandsOf_of_resolve {archive : Archive} {session : String}
    {expression : Expression} {command : String}
    (h : resolve session (archive.get? session) expression = .ok command) :
    command ∈ archive.commandsOf session := by
  rw [commandsOf]
  cases hrecord : archive.get? session with
  | none =>
    rw [hrecord] at h
    cases h
  | some record =>
    rw [hrecord] at h
    exact mem_of_resolveIn h

theorem Task.eq_of_command?_ofDispatch {command found : String} {printOnly : Bool}
    (h : (ofDispatch found printOnly).command? = some command) : found = command := by
  cases printOnly with
  | true => cases h
  | false => exact Option.some.inj h

namespace Step

variable {trigger session text : String}

/-- A line that refers to no command is a command itself. -/
theorem task_ofLine_of_none (h : Message.expansion? trigger text = none)
    (fetched : Except Failure (Option Record)) :
    (ofLine trigger session text).task trigger fetched = .perform text .output := by
  rw [ofLine, h]
  rfl

/-- A line that refers to a command is dispatched as that command, and nothing else is made of what
the command says. -/
theorem task_ofLine_of_some {asked : Message} (h : Message.expansion? trigger text = some asked)
    (record : Option Record) :
    (ofLine trigger session text).task trigger (.ok record) =
      match resolve session record asked.expression with
      | .error failure => .reply (.error failure)
      | .ok command => .ofDispatch command asked.printOnly := by
  rw [ofLine, h, Option.isSome_some, if_pos rfl]
  simp only [task, resolved?, h, Except.bind]
  cases resolve session record asked.expression <;> rfl

/-- The command that a line hands over is one of the record, or the line itself if it refers to
none. -/
theorem command_ofLine {archive : Archive} {command : String}
    (h : ((ofLine trigger session text).task trigger
      (.ok (archive.get? session))).command? = some command) :
    command ∈ archive.commandsOf session ∨
      (Message.expansion? trigger text = none ∧ command = text) := by
  cases hasked : Message.expansion? trigger text with
  | none =>
    rw [task_ofLine_of_none hasked] at h
    exact .inr ⟨rfl, (Option.some.inj h).symm⟩
  | some asked =>
    rw [task_ofLine_of_some hasked] at h
    cases hfound : resolve session (archive.get? session) asked.expression with
    | error failure =>
      rw [hfound] at h
      cases h
    | ok found =>
      rw [hfound] at h
      obtain rfl := Task.eq_of_command?_ofDispatch h
      exact .inl (Archive.mem_commandsOf_of_resolve hfound)

end Step

/-! ## Soundness -/

variable {World : Type} {archive : World → Archive} {session : String} {known : String → Prop}

/-- At a moment of a session's run nothing but known commands is kept, run and in the record. -/
structure Moment.Sound (archive : World → Archive) (session : String) (known : String → Prop)
    (moment : Moment World) : Prop where
  call : ∃ command, known command ∧
    (moment.call = .append session command ∨ moment.call = .run session command)
  record : ∀ command ∈ (archive moment.world).commandsOf session, known command

theorem Archive.known_of_mem_push {archive : Archive}
    (hrecord : ∀ command ∈ archive.commandsOf session, known command) {new : String}
    (hnew : known new) : ∀ command ∈ (archive.push session new).commandsOf session,
      known command := by
  intro command hcommand
  rcases mem_commandsOf_push hcommand with hold | rfl
  · exact hrecord command hold
  · exact hnew

/-- A known command is kept and run soundly. -/
theorem Task.sound_moments {backend : Backend World} (h : backend.Serves archive) {task : Task}
    {world : World} (hrecord : ∀ command ∈ (archive world).commandsOf session, known command)
    (htask : ∀ command, task.command? = some command → known command) :
    ∀ moment ∈ task.moments backend session world, moment.Sound archive session known := by
  have hkept : ∀ {command}, known command →
      ∀ other ∈ (archive (backend.append session command world).2).commandsOf session,
        known other := by
    intro command hcommand
    rw [h.append]
    exact Archive.known_of_mem_push hrecord hcommand
  cases task with
  | reply answer => exact List.forall_mem_nil _
  | keep command =>
    have hcommand := htask command rfl
    exact List.forall_mem_singleton.2 ⟨⟨command, hcommand, .inl rfl⟩, hkept hcommand⟩
  | perform command wrap =>
    have hcommand := htask command rfl
    refine List.forall_mem_cons.2 ⟨⟨⟨command, hcommand, .inl rfl⟩, hkept hcommand⟩,
      List.forall_mem_singleton.2 ⟨⟨command, hcommand, .inr rfl⟩, ?_⟩⟩
    show ∀ other ∈ (archive (backend.run session command _).2).commandsOf session, known other
    rw [h.run]
    exact hkept hcommand

/-- The record holds known commands alone, and so it was at every moment so far. -/
structure SoundSoFar (archive : World → Archive) (session : String) (known : String → Prop)
    (state : World × List (Moment World)) : Prop where
  record : ∀ command ∈ (archive state.1).commandsOf session, known command
  moments : ∀ moment ∈ state.2, moment.Sound archive session known

namespace Repl

variable {engine : Engine World}

/-- **One line** keeps a run sound, if it refers to a command or is known itself. -/
theorem sound_handleLine (h : engine.backend.Serves archive) {text : String}
    (htext : Message.expansion? engine.trigger text = none → known text)
    {state : World × List (Moment World)} (hstate : SoundSoFar archive session known state) :
    SoundSoFar archive session known (handleLine engine.watched session text state).2 := by
  obtain ⟨world, moments⟩ := state
  let step := Step.ofLine engine.trigger session text
  have hfetch : (engine.backend.fetch step.session world).2 = world := by rw [h.fetch]
  have htask : ∀ command, (engine.taskIn step world).command? = some command →
      known command := by
    intro command hcommand
    rw [Engine.taskIn_of_serves h, Step.session_ofLine] at hcommand
    rcases Step.command_ofLine hcommand with hold | ⟨hnone, rfl⟩
    · exact hstate.record command hold
    · exact htext hnone
  rw [handleLine_eq_step]
  show SoundSoFar archive session known (engine.watched.step step (world, moments)).2
  rw [Engine.step_watched, engine.consult_of_fetch hfetch]
  refine ⟨?_, List.forall_mem_append.2 ⟨hstate.moments, ?_⟩⟩
  · rw [Engine.archive_step h, ← Engine.taskIn_of_serves h, Step.session_ofLine]
    cases hcommand : (engine.taskIn step world).command? with
    | none => exact hstate.record
    | some command => exact Archive.known_of_mem_push hstate.record (htask command hcommand)
  · rw [Step.session_ofLine]
    exact Task.sound_moments h hstate.record htask

/-- **Many lines** keep a run sound, if they refer to commands or are known themselves. -/
theorem sound_handleAll (h : engine.backend.Serves archive) {texts : List String}
    (htexts : ∀ text ∈ texts, Message.expansion? engine.trigger text = none → known text)
    {state : World × List (Moment World)} (hstate : SoundSoFar archive session known state) :
    SoundSoFar archive session known (handleAll engine.watched session texts state).2 := by
  induction texts generalizing state with
  | nil => exact hstate
  | cons text texts ih =>
    obtain ⟨htext, htexts⟩ := List.forall_mem_cons.1 htexts
    rw [handleAll_cons]
    exact ih htexts (sound_handleLine h htext hstate)

/-! ## Lines that refer to commands -/

/-- A line that refers to a command has that command kept and run, unless it is only printed, and
asks for nothing else but the record. -/
theorem lineCalls_of_resolve (h : engine.backend.Serves archive) {text : String} {asked : Message}
    (hasked : Message.expansion? engine.trigger text = some asked) {world : World}
    {command : String}
    (hcommand : resolve session ((archive world).get? session) asked.expression = .ok command) :
    lineCalls engine session text world =
      .fetch session ::
        if asked.printOnly then [] else [.append session command, .run session command] := by
  have hline : Step.ofLine engine.trigger session text = .message session text := by
    rw [Step.ofLine, hasked]
    rfl
  have hlookups : engine.lookups (.message session text) = [.fetch session] := by
    rw [Engine.lookups, Step.consults, hasked]
    rfl
  have htask : (Step.ofLine engine.trigger session text).task engine.trigger
      (.ok ((archive world).get? session)) = _ := Step.task_ofLine_of_some hasked _
  rw [hcommand, hline] at htask
  rw [lineCalls, hline, hlookups, Engine.taskIn_of_serves h, Step.session, htask]
  cases asked.printOnly <;> rfl

/-! ## More lines, more moments -/

theorem prefix_handleAll (engine : Engine World) (session : String) (texts : List String)
    (state : World × List (Moment World)) :
    state.2 <+: (handleAll engine.watched session texts state).2.2 := by
  induction texts generalizing state with
  | nil => exact List.prefix_rfl
  | cons text texts ih =>
    have hline : state.2 <+: (handleLine engine.watched session text state).2.2 := by
      rw [handleLine_eq_step]
      show state.2 <+: (engine.watched.step _ (state.1, state.2)).2.2
      rw [Engine.step_watched]
      exact List.prefix_append _ _
    rw [handleAll_cons]
    exact hline.trans (ih _)

/-- **The moments of the first lines** are the first moments of all lines. -/
theorem prefix_handleAll_append (engine : Engine World) (session : String)
    (front back : List String) (state : World × List (Moment World)) :
    (handleAll engine.watched session front state).2.2 <+:
      (handleAll engine.watched session (front ++ back) state).2.2 := by
  induction front generalizing state with
  | nil => exact prefix_handleAll engine session back state
  | cons text front ih =>
    rw [List.cons_append, handleAll_cons, handleAll_cons]
    exact ih _

/-! ## Typed commands -/

/-- A line types a command: the text of the line without the blanks around it, where that is not
empty, does not end the loop and refers to no command. -/
structure Types (trigger : String) (line : Octets) (text : List Char) (command : String) :
    Prop where
  decode : Utf8.decode (withoutEnd line) = .ok text
  trim : Text.trim (String.ofList text) = command
  ne_empty : command ≠ ""
  not_leave : command ∉ leaveWords
  plain : ∀ message, Message.read? trigger (String.ofList text) = some message →
    message.expression = .plain

/-- Blanks around a text are no part of the message. -/
theorem read?_trim (trigger text : String) :
    Message.read? trigger (Text.trim text) = Message.read? trigger text := by
  rw [Message.read?, Message.body?, Text.trim, String.toList_ofList, Text.trimmed_trimmed]
  rfl

theorem plain_of_expansion?_eq_none {trigger text : String}
    (h : Message.expansion? trigger text = none) {message : Message}
    (hread : Message.read? trigger text = some message) : message.expression = .plain := by
  have hnot := Option.filter_eq_none_iff.1 h message hread
  cases hexpression : message.expression with
  | plain => rfl
  | last | index | beginning | containing => exact absurd (by rw [hexpression]; rfl) hnot

/-- A line that is handled and refers to no command types itself. -/
theorem types_of_ofLine {trigger command : String} {line : Octets}
    (hrequest : Request.ofLine line = .handle command)
    (hnone : Message.expansion? trigger command = none) :
    ∃ text, Types trigger line text command := by
  unfold Request.ofLine at hrequest
  cases hdecode : Utf8.decode (withoutEnd line) with
  | error fault =>
    rw [hdecode] at hrequest
    cases hrequest
  | ok text =>
    rw [hdecode] at hrequest
    have hentry : Request.ofEntry (Text.trim (String.ofList text)) = .handle command := hrequest
    rw [Request.ofEntry] at hentry
    split at hentry
    · cases hentry
    · next hempty =>
      split at hentry
      · cases hentry
      · next hleave =>
        have htrim := Request.handle.inj hentry
        rw [htrim] at hempty hleave
        refine ⟨text, hdecode, htrim, hempty, fun hmem => hleave (List.contains_iff_mem.2 hmem),
          fun message hread => ?_⟩
        rw [← htrim] at hnone
        exact plain_of_expansion?_eq_none hnone ((read?_trim _ _).trans hread)

end Repl

end HistoryExpansion
