import HistoryExpansion.Proofs.Repl.Line
import HistoryExpansion.Proofs.Repl.Lines

/-!
# Runs of the loop

A run handles the texts of its input one after the other, whatever becomes of each of them, and
fails only where a line cannot be read: `outcome_run`. So it is the same for all inputs that ask for
the same (`outcome_run_congr`). Watching the services while a run goes on has no part in the run
(`runLines_of_observes`).
-/

namespace HistoryExpansion

/-- An engine that takes every step as another one does, and notes something meanwhile. -/
structure Engine.Observes {World Note : Type} (outer : Engine (World × Note))
    (inner : Engine World) : Prop where
  trigger : outer.trigger = inner.trigger
  answer : ∀ step world note, (outer.step step (world, note)).1 = (inner.step step world).1
  world : ∀ step world note, (outer.step step (world, note)).2.1 = (inner.step step world).2

theorem Engine.observes_journaled {World : Type} (engine : Engine World) :
    engine.journaled.Observes engine :=
  ⟨rfl, fun step world journal => by rw [step_journaled],
    fun step world journal => by rw [step_journaled]⟩

namespace Repl

variable {World : Type}

/-! ## Texts in order -/

/-- Handles texts one after the other, whatever becomes of each of them. -/
def handleAll (engine : Engine World) (session : String) :
    List String → World → List (Except Failure String) × World
  | [], world => ([], world)
  | text :: texts, world =>
    let (reply, world) := handleLine engine session text world
    let (replies, world) := handleAll engine session texts world
    (reply :: replies, world)

theorem handleAll_cons (engine : Engine World) (session text : String) (texts : List String)
    (world : World) :
    handleAll engine session (text :: texts) world =
      ((handleLine engine session text world).1 ::
          (handleAll engine session texts (handleLine engine session text world).2).1,
        (handleAll engine session texts (handleLine engine session text world).2).2) := rfl

/-- Every text gets one reply. -/
theorem length_handleAll (engine : Engine World) (session : String) (texts : List String)
    (world : World) : (handleAll engine session texts world).1.length = texts.length := by
  induction texts generalizing world with
  | nil => rfl
  | cons text texts ih =>
    rw [handleAll_cons, List.length_cons, List.length_cons, ih]

/-- What a reply adds to the standard output. -/
def outputOf : Except Failure String → String
  | .ok text => text
  | .error _ => ""

/-- What a reply adds to the standard error. -/
def errorsOf : Except Failure String → String
  | .ok _ => ""
  | .error failure => failure.render ++ "\n"

/-- The standard output is made of what the replies add to it, one after the other. -/
theorem Run.output_eq (run : Run World) :
    run.output = String.join (run.replies.map outputOf) := by
  rw [Run.output]
  induction run.replies with
  | nil => rfl
  | cons reply replies ih =>
    rw [List.map_cons, String.join_cons, ← ih]
    cases reply with
    | ok text => exact String.join_cons
    | error failure => exact String.empty_append.symm

theorem Run.errors_eq (run : Run World) :
    run.errors = String.join (run.replies.map errorsOf) := by
  rw [Run.errors]
  induction run.replies with
  | nil => rfl
  | cons reply replies ih =>
    rw [List.map_cons, String.join_cons, ← ih]
    cases reply with
    | ok text => exact String.empty_append.symm
    | error failure => exact String.join_cons

/-! ## The run as a whole -/

/-- What a run comes to: the replies, the world at the end, and whether a line could not be read. -/
def Run.outcome (run : Run World) : (List (Except Failure String) × World) × Bool :=
  ((run.replies, run.world), run.stopped.isSome)

/-- What a run over entries comes to. -/
def outcomeOf (engine : Engine World) (session : String) (entries : List (Option String))
    (world : World) : (List (Except Failure String) × World) × Bool :=
  (handleAll engine session (handledOf entries) world, stop? entries = some none)

variable {engine : Engine World} {session : String}

/-- **The loop handles the texts of its lines**, whatever becomes of each of them. -/
theorem runLines_eq (engine : Engine World) (session : String) (lines : List Octets)
    (world : World) :
    runLines engine session lines world =
      ⟨(handleAll engine session (textsOf lines) world).1, failureOf? lines,
        (handleAll engine session (textsOf lines) world).2⟩ := by
  induction lines generalizing world with
  | nil => rfl
  | cons line lines ih =>
    rw [runLines, textsOf, failureOf?]
    cases Request.ofLine line with
    | nothing => exact ih world
    | leave => rfl
    | unreadable failure => rfl
    | handle text => simp only [ih, handleAll_cons]

/-- **A run of the loop** handles the texts of its input in order, and a line that cannot be read is
all that makes it fail. -/
theorem outcome_run (engine : Engine World) (session : String) (input : Octets) (world : World) :
    (run engine session input world).outcome =
      outcomeOf engine session (entries input) world := by
  obtain ⟨htexts, hfailure⟩ := agree_lines input
  rw [run, runLines_eq, outcomeOf, ← htexts]
  refine Prod.ext rfl (Bool.eq_iff_iff.2 ?_)
  rw [decide_eq_true_eq]
  exact hfailure

/-- Inputs that ask for the same come to the same. -/
theorem outcome_run_congr {input other : Octets} (h : asked input = asked other) (world : World) :
    (run engine session input world).outcome = (run engine session other world).outcome := by
  have hasked (input : Octets) : outcomeOf engine session (entries input) world =
      outcomeOf engine session (asked input) world := by
    rw [outcomeOf, outcomeOf, asked, handledOf_asked, stop?_asked]
  rw [outcome_run, outcome_run, hasked, hasked, h]

/-- What stands behind a line that ends the loop has no part in a run. -/
theorem outcome_run_append {front : Octets} (h : ∃ entry ∈ entries front, goesOn entry = false)
    (back : Octets) (world : World) :
    (run engine session (front ++ lineFeed :: back) world).outcome =
      (run engine session front world).outcome := by
  rw [outcome_run, outcome_run, entries_append, outcomeOf, outcomeOf, handledOf_append h,
    stop?_append h]

/-! ## Runs that are watched -/

variable {Note : Type} {outer : Engine (World × Note)}

theorem handleLine_of_observes (h : outer.Observes engine) (session text : String) (world : World)
    (note : Note) :
    (handleLine outer session text (world, note)).1 = (handleLine engine session text world).1 ∧
      (handleLine outer session text (world, note)).2.1 =
        (handleLine engine session text world).2 := by
  rw [handleLine_eq_step, handleLine_eq_step, h.trigger, h.answer]
  exact ⟨rfl, h.world _ _ _⟩

theorem handleAll_of_observes (h : outer.Observes engine) (session : String)
    (texts : List String) (world : World) (note : Note) :
    (handleAll outer session texts (world, note)).1 = (handleAll engine session texts world).1 ∧
      (handleAll outer session texts (world, note)).2.1 =
        (handleAll engine session texts world).2 := by
  induction texts generalizing world note with
  | nil => exact ⟨rfl, rfl⟩
  | cons text texts ih =>
    obtain ⟨hreply, hworld⟩ := handleLine_of_observes h session text world note
    obtain ⟨hreplies, hleft⟩ := ih (handleLine engine session text world).2
      (handleLine outer session text (world, note)).2.2
    rw [← hworld] at hreplies hleft
    rw [handleAll_cons, handleAll_cons, hreply, ← hworld]
    exact ⟨congrArg _ hreplies, hleft⟩

/-- A run without what was noted meanwhile. -/
def Run.unwatched (run : Run (World × Note)) : Run World :=
  ⟨run.replies, run.stopped, run.world.1⟩

/-- **Watching a run** has no part in it. -/
theorem unwatched_run (h : outer.Observes engine) (session : String) (input : Octets)
    (world : World) (note : Note) :
    (run outer session input (world, note)).unwatched = run engine session input world := by
  obtain ⟨hreplies, hworld⟩ := handleAll_of_observes h session (textsOf (lines input)) world note
  rw [run, run, runLines_eq, runLines_eq, Run.unwatched, ← hreplies, ← hworld]

end Repl

end HistoryExpansion
