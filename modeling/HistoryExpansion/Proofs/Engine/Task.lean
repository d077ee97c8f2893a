import HistoryExpansion.Engine.Run

/-!
# What a step comes to

Once the record that a step refers to is known, the engine does one of three things: it answers, it
keeps a command, or it keeps a command and runs it. `Step.task` says which, without a word about the
services, and `step_eq_carry` is the inversion of `Engine.step`: fetch the record if the step refers
to one (`Step.consults`), then carry the task out.
-/

namespace HistoryExpansion

/-- The message that a text is, if it refers to a command. -/
def Message.expansion? (trigger text : String) : Option Message :=
  (Message.read? trigger text).filter fun message => message.expression.isExpansion

/-- What the engine does for a step once the record is known. -/
inductive Task where
  /-- It only answers. -/
  | reply (answer : Except Failure Answer)
  /-- It keeps a command. -/
  | keep (command : String)
  /-- It keeps a command and runs it; the output is wrapped into the answer. -/
  | perform (command : String) (wrap : Output → Answer)

namespace Task

/-- A resolved command is printed, or kept and run. -/
def ofDispatch (command : String) (printOnly : Bool) : Task :=
  if printOnly then reply (.ok (.outcome (.printed command)))
  else perform command fun output => .outcome (.executed command output)

/-- Carries a task out on behalf of a session. A command that cannot be kept is run all the same. -/
def carry {World : Type} (backend : Backend World) (session : String) : Task → Action World Answer
  | reply answer => fun world => (answer, world)
  | keep command => Engine.answering (fun _ => .recorded) (backend.append session command)
  | perform command wrap => fun world =>
    Engine.answering wrap (backend.run session command) (backend.append session command world).2

end Task

namespace Step

/-- Whether a step refers to the session's record. -/
def consults (trigger : String) : Step → Bool
  | .message _ text => (Message.expansion? trigger text).isSome
  | .expand _ text => (Message.expansion? trigger text).isSome
  | .history _ => true
  | .execute .. | .record .. | .dispatch .. => false

/-- The command that a text refers to, given what fetching the record gave, and whether it is only
to be printed; nothing for a text that is no expansion. -/
def resolved? (trigger session text : String) (fetched : Except Failure (Option Record)) :
    Except Failure (Option (String × Bool)) :=
  match Message.expansion? trigger text with
  | none => .ok none
  | some asked =>
    (fetched.bind fun record => resolve session record asked.expression).map fun command =>
      some (command, asked.printOnly)

/-- What a step comes to, given what fetching the record gave. -/
def task (trigger : String) (fetched : Except Failure (Option Record)) : Step → Task
  | .message session text =>
    match resolved? trigger session text fetched with
    | .error failure => .reply (.error failure)
    | .ok none => .reply (.ok (.outcome .passThrough))
    | .ok (some (command, printOnly)) => .ofDispatch command printOnly
  | .expand session text =>
    .reply ((resolved? trigger session text fetched).map fun found =>
      .expansion (found.map Prod.fst))
  | .execute _ command => .perform command .output
  | .record _ command => .keep command
  | .history _ => .reply (fetched.map .history)
  | .dispatch _ command printOnly => .ofDispatch command printOnly

end Step

namespace Engine

variable {World : Type} (engine : Engine World)

/-- The record that a step refers to, and the world behind it. A step that refers to none leaves the
world alone. -/
def consult (step : Step) : Action World (Option Record) := fun world =>
  if step.consults engine.trigger then engine.backend.fetch step.session world
  else (.ok none, world)

theorem answering_apply {α : Type} (wrap : α → Answer) (action : Action World α) (world : World) :
    answering wrap action world = ((action world).1.map wrap, (action world).2) := rfl

/-! ## Messages -/

theorem resolveMessage_of_none {session text : String}
    (h : Message.expansion? engine.trigger text = none) (world : World) :
    engine.resolveMessage session text world = (.ok none, world) := by
  unfold resolveMessage read?
  rw [Message.expansion?, Option.filter_eq_none_iff] at h
  cases hread : Message.read? engine.trigger text with
  | none => rfl
  | some message => exact if_neg (h message hread)

theorem resolveMessage_of_some {session text : String} {asked : Message}
    (h : Message.expansion? engine.trigger text = some asked) (world : World) :
    engine.resolveMessage session text world =
      (((engine.backend.fetch session world).1.bind fun record =>
          resolve session record asked.expression).map fun command =>
            some (command, asked.printOnly),
        (engine.backend.fetch session world).2) := by
  unfold resolveMessage read?
  rw [Message.expansion?, Option.filter_eq_some_iff] at h
  simp only [h.1, h.2, ↓reduceIte]
  split
  · next heq => rw [heq]; rfl
  · next heq =>
    rw [heq]
    split
    · next hfailure => simp only [Except.bind, hfailure, Except.map]
    · next hcommand => simp only [Except.bind, hcommand, Except.map]

/-- A text is resolved against the record that was fetched for it. -/
theorem resolveMessage_eq (session text : String) (world : World) :
    engine.resolveMessage session text world =
      (Step.resolved? engine.trigger session text
          (engine.consult (.message session text) world).1,
        (engine.consult (.message session text) world).2) := by
  cases h : Message.expansion? engine.trigger text with
  | none =>
    simp only [engine.resolveMessage_of_none h, consult, Step.consults, Step.resolved?, h,
      Option.isSome_none, Bool.false_eq_true, ↓reduceIte]
  | some asked =>
    simp only [engine.resolveMessage_of_some h, consult, Step.consults, Step.resolved?, h,
      Option.isSome_some, ↓reduceIte, Step.session]

/-! ## Steps -/

/-- A step that does not refer to the record comes to the same, whatever fetching it would give. -/
theorem task_of_not_consults {trigger : String} {step : Step} (h : step.consults trigger = false)
    (left right : Except Failure (Option Record)) :
    step.task trigger left = step.task trigger right := by
  cases step with
  | message session text =>
    have hnone : Message.expansion? trigger text = none :=
      Option.isNone_iff_eq_none.1 (Option.isSome_eq_false_iff.1 h)
    simp only [Step.task, Step.resolved?, hnone]
  | expand session text =>
    have hnone : Message.expansion? trigger text = none :=
      Option.isNone_iff_eq_none.1 (Option.isSome_eq_false_iff.1 h)
    simp only [Step.task, Step.resolved?, hnone]
  | history session => cases h
  | execute session command => rfl
  | record session command => rfl
  | dispatch session command printOnly => rfl

/-- A resolved command is dispatched as its task says. -/
theorem dispatch_eq_carry (session command : String) (printOnly : Bool) (world : World) :
    answering .outcome (engine.dispatch session command printOnly) world =
      (Task.ofDispatch command printOnly).carry engine.backend session world := by
  cases printOnly with
  | true => rfl
  | false =>
    rw [answering_apply, dispatch, if_neg Bool.false_ne_true]
    show _ = answering _ (engine.execute session command) world
    rw [answering_apply]
    split
    · next heq => rw [heq]; rfl
    · next heq => rw [heq]; rfl

theorem handle_eq_carry (session text : String) (world : World) :
    answering .outcome (engine.handle session text) world =
      (Step.task engine.trigger (engine.consult (.message session text) world).1
        (.message session text)).carry engine.backend session
          (engine.consult (.message session text) world).2 := by
  rw [answering_apply, handle, resolveMessage_eq, Step.task]
  generalize engine.consult (.message session text) world = consulted
  split
  · next heq =>
    obtain ⟨hresolved, rfl⟩ := Prod.mk.inj heq
    rw [hresolved]
    rfl
  · next heq =>
    obtain ⟨hresolved, rfl⟩ := Prod.mk.inj heq
    rw [hresolved]
    rfl
  · next command printOnly _ heq =>
    obtain ⟨hresolved, rfl⟩ := Prod.mk.inj heq
    rw [hresolved]
    exact engine.dispatch_eq_carry session command printOnly consulted.2

theorem expand_eq_carry (session text : String) (world : World) :
    answering .expansion (engine.expand session text) world =
      (Step.task engine.trigger (engine.consult (.expand session text) world).1
        (.expand session text)).carry engine.backend session
          (engine.consult (.expand session text) world).2 := by
  have hconsult : engine.consult (.expand session text) = engine.consult (.message session text) :=
    rfl
  rw [answering_apply, expand, resolveMessage_eq, Step.task, hconsult]
  generalize engine.consult (.message session text) world = consulted
  split
  · next heq =>
    obtain ⟨hresolved, rfl⟩ := Prod.mk.inj heq
    rw [hresolved]
    rfl
  · next heq =>
    obtain ⟨hresolved, rfl⟩ := Prod.mk.inj heq
    rw [hresolved]
    rfl

/-- What a step comes to in a world. -/
def taskIn (step : Step) (world : World) : Task :=
  step.task engine.trigger (engine.backend.fetch step.session world).1

theorem task_consult (step : Step) (world : World) :
    step.task engine.trigger (engine.consult step world).1 = engine.taskIn step world := by
  unfold taskIn consult
  split
  · rfl
  · next h => exact task_of_not_consults (Bool.eq_false_iff.2 h) _ _

/-- **The inversion of a step**: look the record up if the step refers to it, then carry out what
the step comes to. -/
theorem step_eq_carry (step : Step) (world : World) :
    engine.step step world =
      (engine.taskIn step world).carry engine.backend step.session
        (engine.consult step world).2 := by
  rw [← task_consult]
  cases step with
  | message session text => exact engine.handle_eq_carry session text world
  | expand session text => exact engine.expand_eq_carry session text world
  | execute session command => rfl
  | record session command => rfl
  | history session => rfl
  | dispatch session command printOnly =>
    exact engine.dispatch_eq_carry session command printOnly world

/-- A lookup leaves a world alone that fetching leaves alone. -/
theorem consult_of_fetch {step : Step} {world : World}
    (h : (engine.backend.fetch step.session world).2 = world) :
    (engine.consult step world).2 = world := by
  unfold consult
  split
  · exact h
  · rfl

theorem step_of_fetch {step : Step} {world : World}
    (h : (engine.backend.fetch step.session world).2 = world) :
    engine.step step world =
      (engine.taskIn step world).carry engine.backend step.session world := by
  rw [step_eq_carry, engine.consult_of_fetch h]

theorem run_cons (step : Step) (steps : List Step) (world : World) :
    engine.run (step :: steps) world =
      ((engine.step step world).1 :: (engine.run steps (engine.step step world).2).1,
        (engine.run steps (engine.step step world).2).2) := rfl

end Engine

end HistoryExpansion
