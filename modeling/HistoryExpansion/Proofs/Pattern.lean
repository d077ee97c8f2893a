import HistoryExpansion.Text.Blank

/-!
# Patterns

Regular expressions with named captures, as far as the pattern of expressions uses them. `ways` says
in which ways a pattern can go through a text, in order of preference: the first of two alternatives
is tried before the second, and a repetition takes as much as it can. A search takes the first way
from the leftmost place that has one (`captures`). A pattern between `start` and `finish` finds its
first way that leaves nothing of the text (`captures_anchored`), and what that is for each kind of
pattern is said by the `finish?` lemmas.
-/

namespace HistoryExpansion

/-- A set of characters. -/
inductive CharSet where
  /-- One character. -/
  | literal (c : Char)
  /-- The characters of closed ranges. -/
  | ranges (bounds : List (Char × Char))
  /-- The characters that are not blank. -/
  | notBlank
  deriving DecidableEq, Repr

namespace CharSet

/-- Whether a character is in the set. -/
def has : CharSet → Char → Bool
  | literal l, c => l == c
  | ranges bounds, c => bounds.any fun bound => bound.1 ≤ c && c ≤ bound.2
  | notBlank, c => !Text.isBlank c

/-- A non-empty run of characters of the set. -/
def isRun (set : CharSet) (text : List Char) : Bool :=
  !text.isEmpty && text.all set.has

/-- The characters that stand for themselves only behind a backslash. -/
def special : List Char :=
  ['\\', '.', '+', '*', '?', '(', ')', '|', '[', ']', '^', '$', '\x7b', '\x7d']

/-- The set as it is written. -/
def text : CharSet → String
  | literal c => if c ∈ special then "\\" ++ c.toString else c.toString
  | ranges bounds =>
    "[" ++ String.join (bounds.map fun bound =>
      if bound.1 = bound.2 then bound.1.toString
      else bound.1.toString ++ "-" ++ bound.2.toString) ++ "]"
  | notBlank => "\\S"

end CharSet

/-- A regular expression. -/
inductive Pattern where
  /-- One character of a set. -/
  | one (set : CharSet)
  /-- The start of the text. -/
  | start
  /-- The end of the text. -/
  | finish
  /-- One pattern and then another. -/
  | both (first second : Pattern)
  /-- One of two patterns, the first one if possible. -/
  | either (first second : Pattern)
  /-- A pattern or nothing, the pattern if possible. -/
  | maybe (body : Pattern)
  /-- A pattern once or more, as often as possible. -/
  | repeated (body : Pattern)
  /-- A pattern in brackets. -/
  | group (body : Pattern)
  /-- A pattern whose part of the text is captured under a name. -/
  | named (name : String) (body : Pattern)
  deriving DecidableEq, Repr

/-- A place in a text, on a pattern's way through it. -/
structure Place where
  /-- How many characters were passed. -/
  passed : Nat
  /-- The characters ahead. -/
  rest : List Char
  /-- What was captured, newest first. -/
  captured : List (String × List Char)
  deriving DecidableEq, Repr

namespace Place

/-- Whether nothing of the text is left. -/
def isFinal (place : Place) : Bool :=
  place.rest.isEmpty

/-- The end of the text. -/
def finished (place : Place) : Place :=
  ⟨place.passed + place.rest.length, [], place.captured⟩

theorem isFinal_iff {place : Place} : place.isFinal = true ↔ place.rest = [] :=
  List.isEmpty_iff

/-- Passing a character does not change where the end is. -/
theorem finished_next (passed : Nat) (c : Char) (rest : List Char)
    (captured : List (String × List Char)) :
    finished ⟨passed + 1, rest, captured⟩ = finished ⟨passed, c :: rest, captured⟩ := by
  simp only [finished, List.length_cons, Nat.add_assoc, Nat.add_comm 1]

/-- The same place with one more capture. -/
def capture (name : String) (taken : List Char) (place : Place) : Place :=
  { place with captured := (name, taken) :: place.captured }

end Place

namespace Pattern

/-- The pattern as it is written. Alternatives and what is repeated are to be put into groups where
they would be read differently. -/
def text : Pattern → String
  | one set => set.text
  | start => "^"
  | finish => "$"
  | both first second => first.text ++ second.text
  | either first second => first.text ++ "|" ++ second.text
  | maybe body => body.text ++ "?"
  | repeated body => body.text ++ "+"
  | group body => "(?:" ++ body.text ++ ")"
  | named name body => "(?P<" ++ name ++ ">" ++ body.text ++ ")"

/-- Goes on as often as possible, at most so many times. Going on without passing a character ends
the repetition. -/
def iterate (step : Place → List Place) : Nat → Place → List Place
  | 0, place => [place]
  | times + 1, place =>
    ((step place).flatMap fun next =>
      if next.rest.length < place.rest.length then iterate step times next else [next]) ++ [place]

/-- The places that a pattern can lead to, in order of preference. -/
def ways : Pattern → Place → List Place
  | one _, ⟨_, [], _⟩ => []
  | one set, ⟨passed, c :: rest, captured⟩ =>
    if set.has c then [⟨passed + 1, rest, captured⟩] else []
  | start, place => if place.passed = 0 then [place] else []
  | finish, place => if place.rest = [] then [place] else []
  | both first second, place => (first.ways place).flatMap second.ways
  | either first second, place => first.ways place ++ second.ways place
  | maybe body, place => body.ways place ++ [place]
  | repeated body, place =>
    (body.ways place).flatMap fun next => iterate body.ways next.rest.length next
  | group body, place => body.ways place
  | named name body, place =>
    (body.ways place).map fun next =>
      next.capture name (place.rest.take (place.rest.length - next.rest.length))

-- The equations that the proofs rewrite with, so that each of them opens one constructor only.

theorem ways_one (set : CharSet) (passed : Nat) (c : Char) (rest : List Char)
    (captured : List (String × List Char)) :
    (one set).ways ⟨passed, c :: rest, captured⟩ =
      if set.has c then [⟨passed + 1, rest, captured⟩] else [] := rfl

theorem ways_finish (place : Place) :
    finish.ways place = if place.rest = [] then [place] else [] := rfl

theorem ways_both (first second : Pattern) (place : Place) :
    (both first second).ways place = (first.ways place).flatMap second.ways := rfl

theorem ways_maybe (body : Pattern) (place : Place) :
    (maybe body).ways place = body.ways place ++ [place] := rfl

theorem ways_repeated (body : Pattern) (place : Place) :
    (repeated body).ways place =
      (body.ways place).flatMap fun next => iterate body.ways next.rest.length next := rfl

theorem ways_named (name : String) (body : Pattern) (place : Place) :
    (named name body).ways place = (body.ways place).map fun next =>
      next.capture name (place.rest.take (place.rest.length - next.rest.length)) := rfl

/-- Where the pattern first leads to from the leftmost place that it leads on from. -/
def search (pattern : Pattern) (passed : Nat) : (text : List Char) → Option Place
  | [] => (pattern.ways ⟨passed, [], []⟩).head?
  | c :: text =>
    (pattern.ways ⟨passed, c :: text, []⟩).head?.or (pattern.search (passed + 1) text)

/-- What the pattern captures in a text, if it is found there. -/
def captures (pattern : Pattern) (text : List Char) : Option (List (String × List Char)) :=
  (pattern.search 0 text).map Place.captured

/-- Where the pattern first leads to with nothing of the text left. -/
def finish? (pattern : Pattern) (place : Place) : Option Place :=
  (pattern.ways place).find? Place.isFinal

/-! ## Anchors -/

theorem ways_start (body : Pattern) (place : Place) :
    (both start body).ways place = if place.passed = 0 then body.ways place else [] := by
  show (if place.passed = 0 then [place] else []).flatMap body.ways = _
  split
  · exact List.flatMap_singleton _ _
  · rfl

/-- Behind its first character a text does not start. -/
theorem search_start (body : Pattern) {passed : Nat} (h : passed ≠ 0) (text : List Char) :
    (both start body).search passed text = none := by
  induction text generalizing passed with
  | nil => rw [search, ways_start, if_neg h, List.head?_nil]
  | cons c text ih =>
    rw [search, ways_start, if_neg h, List.head?_nil, Option.none_or]
    exact ih (Nat.succ_ne_zero passed)

theorem head?_ways_finish (body : Pattern) (place : Place) :
    ((both body finish).ways place).head? = body.finish? place := by
  rw [ways_both, finish?]
  induction body.ways place with
  | nil => rfl
  | cons next others ih =>
    rw [List.flatMap_cons, ways_finish]
    by_cases h : next.rest = []
    · rw [if_pos h, List.find?_cons_of_pos (Place.isFinal_iff.2 h)]
      rfl
    · rw [if_neg h, List.find?_cons_of_neg fun hfinal => h (Place.isFinal_iff.1 hfinal),
        List.nil_append, ih]

/-- **Between the anchors** a pattern is found if it has a way through the whole text. -/
theorem captures_anchored (body : Pattern) (text : List Char) :
    (both start (both body finish)).captures text =
      (body.finish? ⟨0, text, []⟩).map Place.captured := by
  have hways : ((both start (both body finish)).ways ⟨0, text, []⟩).head? =
      body.finish? ⟨0, text, []⟩ := by
    rw [ways_start, if_pos rfl, head?_ways_finish]
  rw [captures]
  cases text with
  | nil => rw [search, hways]
  | cons c text => rw [search, hways, search_start _ Nat.one_ne_zero, Option.or_none]

/-! ## Ways through the whole text -/

theorem finish?_either (first second : Pattern) (place : Place) :
    (either first second).finish? place = (first.finish? place).or (second.finish? place) :=
  List.find?_append

@[simp] theorem finish?_group (body : Pattern) (place : Place) :
    (group body).finish? place = body.finish? place := rfl

/-- What is captured on a way through the whole text is the whole text. -/
theorem finish?_named (name : String) (body : Pattern) (place : Place) :
    (named name body).finish? place =
      (body.finish? place).map (Place.capture name place.rest) := by
  rw [finish?, ways_named, List.find?_map]
  refine Option.map_congr fun next hnext => ?_
  have hrest : next.rest = [] := Place.isFinal_iff.1 (List.find?_some hnext)
  rw [hrest, List.length_nil, Nat.sub_zero, List.take_length]

/-- A character that has to come first. -/
theorem finish?_one_both (set : CharSet) (body : Pattern) (passed : Nat) (c : Char)
    (rest : List Char) (captured : List (String × List Char)) :
    (both (one set) body).finish? ⟨passed, c :: rest, captured⟩ =
      if set.has c then body.finish? ⟨passed + 1, rest, captured⟩ else none := by
  rw [finish?, ways_both, ways_one]
  split
  · rw [List.flatMap_singleton, finish?]
  · rfl

theorem finish?_maybe_both (first second : Pattern) (place : Place) :
    (both (maybe first) second).finish? place =
      ((both first second).finish? place).or (second.finish? place) := by
  rw [finish?, ways_both, ways_maybe, List.flatMap_append, List.flatMap_singleton,
    List.find?_append]
  rfl

/-! ## Tests -/

/-- The pattern goes through the whole of those texts that pass a test, and captures nothing. -/
def Takes (pattern : Pattern) (test : List Char → Bool) : Prop :=
  ∀ place, pattern.finish? place = if test place.rest then some place.finished else none

theorem takes_literal (c : Char) : (one (.literal c)).Takes (· == [c]) := by
  rintro ⟨passed, _ | ⟨first, rest⟩, captured⟩
  · rfl
  · show _ = if first == c && rest == [] then _ else _
    rw [finish?, ways_one, CharSet.has, BEq.comm]
    cases first == c with
    | false => rfl
    | true => cases rest <;> rfl

/-- Going on with characters of a set. -/
theorem find?_iterate_one (set : CharSet) (passed : Nat) (rest : List Char)
    (captured : List (String × List Char)) :
    (iterate (one set).ways rest.length ⟨passed, rest, captured⟩).find? Place.isFinal =
      if rest.all set.has then some (Place.finished ⟨passed, rest, captured⟩) else none := by
  induction rest generalizing passed with
  | nil => rfl
  | cons c rest ih =>
    rw [List.length_cons, iterate, List.find?_append, ways_one, List.all_cons]
    cases set.has c with
    | false => rfl
    | true =>
      have hshorter : rest.length < (c :: rest).length := Nat.lt_succ_self _
      rw [if_pos rfl, List.flatMap_singleton, if_pos hshorter, ih, Bool.true_and,
        Place.finished_next]
      exact Option.or_none

/-- **A repetition** goes through the runs of characters of its set. -/
theorem takes_repeated (set : CharSet) : (repeated (one set)).Takes set.isRun := by
  rintro ⟨passed, _ | ⟨c, rest⟩, captured⟩
  · rfl
  · rw [finish?, ways_repeated, ways_one, CharSet.isRun, List.isEmpty_cons, List.all_cons,
      Bool.not_false, Bool.true_and]
    cases set.has c with
    | false => rfl
    | true =>
      rw [if_pos rfl, List.flatMap_singleton, find?_iterate_one, Place.finished_next,
        Bool.true_and]

/-- Whether a text starts with a character and what stands behind it passes a test. -/
def behind (c : Char) (test : List Char → Bool) : List Char → Bool
  | [] => false
  | first :: rest => c == first && test rest

theorem behind_eq_true_iff {c : Char} {test : List Char → Bool} {text : List Char} :
    behind c test text = true ↔ ∃ rest, text = c :: rest ∧ test rest = true := by
  cases text with
  | nil => exact iff_of_false nofun nofun
  | cons first rest =>
    rw [behind, Bool.and_eq_true, beq_iff_eq]
    constructor
    · rintro ⟨rfl, h⟩
      exact ⟨rest, rfl, h⟩
    · rintro ⟨_, heq, h⟩
      cases heq
      exact ⟨rfl, h⟩

namespace Takes

variable {body : Pattern} {test : List Char → Bool}

/-- A character that may come first. -/
theorem maybe_both (h : body.Takes test) (c : Char) :
    (both (maybe (one (.literal c))) body).Takes fun text => behind c test text || test text := by
  rintro ⟨passed, rest, captured⟩
  rw [finish?_maybe_both, h]
  cases rest with
  | nil => rfl
  | cons first rest =>
    show _ = if c == first && test rest || test (first :: rest) then _ else _
    rw [finish?_one_both, CharSet.has, h, Place.finished_next passed first rest captured]
    cases c == first with
    | false => exact Option.none_or
    | true => cases test rest <;> rfl

/-- A capture of the whole text. -/
theorem finish?_named (h : body.Takes test) (name : String) (place : Place) :
    (named name body).finish? place =
      if test place.rest then some (place.finished.capture name place.rest) else none := by
  rw [Pattern.finish?_named, h]
  split <;> rfl

/-- A capture of the whole text behind a character. -/
theorem finish?_behind (h : body.Takes test) (c : Char) (name : String) (place : Place) :
    (both (one (.literal c)) (named name body)).finish? place =
      if behind c test place.rest then
        some (place.finished.capture name place.rest.tail)
      else none := by
  obtain ⟨passed, _ | ⟨first, rest⟩, captured⟩ := place
  · rfl
  · show _ = if c == first && test rest then _ else _
    rw [finish?_one_both, CharSet.has, h.finish?_named, Place.finished_next passed first]
    cases c == first <;> rfl

end Takes

end Pattern

end HistoryExpansion
