import HistoryExpansion.Number
import HistoryExpansion.Text.Utf8

/-!
# Differences between two lists of lines

Two lists of lines are made the same by as few removals and additions as can be. The lines that stay
are found by going from both ends at once, one removal or addition after the other, until the two
ways meet; what stands before and behind the meeting is done the same way. A run of removed or added
lines that may as well stand further down is moved there.
-/

namespace HistoryExpansion.Shell

/-- A stretch of lines of the first list, in whose place a stretch of lines of the second one
stands. -/
structure Difference where
  /-- The number of lines before the first stretch. -/
  first : Nat
  /-- The number of lines of the first stretch. -/
  removed : Nat
  /-- The number of lines before the second stretch. -/
  second : Nat
  /-- The number of lines of the second stretch. -/
  added : Nat
  deriving DecidableEq, Repr

namespace Difference

/-! ## The middle -/

/-- A diagonal pairs the lines of the two lists whose numbers have the same distance. How far the
two ways have come on diagonals is kept for each from the lowest one on. -/
structure Ways where
  /-- How far the way from the start has come. -/
  forth : Array Int
  /-- How far the way from the end has come. -/
  back : Array Int
  /-- The lowest diagonal, less one. -/
  base : Int

/-- What an array holds for a diagonal. -/
def Ways.at (ways : Ways) (values : Array Int) (diagonal : Int) : Int :=
  values.getD (diagonal - ways.base).toNat 0

/-- The lists, and the parts of them that are at hand. -/
structure Window where
  /-- The first list, as classes of lines that are the same. -/
  xs : Array Nat
  /-- The second list. -/
  ys : Array Nat
  /-- Where the part of the first list starts. -/
  left : Int
  /-- Where it ends. -/
  right : Int
  /-- Where the part of the second list starts. -/
  top : Int
  /-- Where it ends. -/
  bottom : Int

/-- Whether two lines are the same. -/
def Window.same (window : Window) (x y : Int) : Bool :=
  window.xs[x.toNat]? == window.ys[y.toNat]?

/-- Goes down a diagonal as long as the lines are the same. -/
def Window.down (window : Window) (diagonal : Int) : (fuel : Nat) → (x : Int) → Int
  | 0, x => x
  | fuel + 1, x =>
    let y := x - diagonal
    if x < window.right ∧ y < window.bottom ∧ window.same x y then
      window.down diagonal fuel (x + 1)
    else x

/-- Goes up a diagonal as long as the lines are the same. -/
def Window.up (window : Window) (diagonal : Int) : (fuel : Nat) → (x : Int) → Int
  | 0, x => x
  | fuel + 1, x =>
    let y := x - diagonal
    if window.left < x ∧ window.top < y ∧ window.same (x - 1) (y - 1) then
      window.up diagonal fuel (x - 1)
    else x

/-- A number that is beyond each line. -/
def beyond : Int := 2 ^ 40

/-- A range of diagonals, widened by one on each side, or narrowed where it would leave the window.
-/
def widened (least greatest : Int) (range : Int × Int) : Int × Int :=
  (if range.1 > least then range.1 - 1 else range.1 + 1,
    if range.2 < greatest then range.2 + 1 else range.2 - 1)

/-- Sets what an array holds for a diagonal. -/
def Ways.put (ways : Ways) (values : Array Int) (diagonal value : Int) : Array Int :=
  values.setIfInBounds (diagonal - ways.base).toNat value

/-- Takes a step on the way from the start, on every second diagonal from the highest on. Gives the
meeting if there is one. -/
def stepForth (window : Window) (isOdd : Bool) (other : Int × Int) (low : Int) : (fuel : Nat) →
    (diagonal : Int) → Ways → Except (Int × Int) Ways
  | 0, _, ways => .ok ways
  | fuel + 1, diagonal, ways =>
    if diagonal < low then .ok ways
    else
      let below := ways.at ways.forth (diagonal - 1)
      let above := ways.at ways.forth (diagonal + 1)
      let start := if below < above then above else below + 1
      let x := window.down diagonal (window.xs.size + 1) start
      let ways := { ways with forth := ways.put ways.forth diagonal x }
      if isOdd ∧ other.1 ≤ diagonal ∧ diagonal ≤ other.2 ∧ ways.at ways.back diagonal ≤ x then
        .error (x, x - diagonal)
      else stepForth window isOdd other low fuel (diagonal - 2) ways

/-- Takes a step on the way from the end. -/
def stepBack (window : Window) (isOdd : Bool) (other : Int × Int) (low : Int) : (fuel : Nat) →
    (diagonal : Int) → Ways → Except (Int × Int) Ways
  | 0, _, ways => .ok ways
  | fuel + 1, diagonal, ways =>
    if diagonal < low then .ok ways
    else
      let below := ways.at ways.back (diagonal - 1)
      let above := ways.at ways.back (diagonal + 1)
      let start := if below < above then below else above - 1
      let x := window.up diagonal (window.xs.size + 1) start
      let ways := { ways with back := ways.put ways.back diagonal x }
      if !isOdd ∧ other.1 ≤ diagonal ∧ diagonal ≤ other.2 ∧ x ≤ ways.at ways.forth diagonal then
        .error (x, x - diagonal)
      else stepBack window isOdd other low fuel (diagonal - 2) ways

/-- Goes on from both ends until the ways meet. -/
def meet (window : Window) (isOdd : Bool) (least greatest : Int) : (fuel : Nat) →
    (forth back : Int × Int) → Ways → Int × Int
  | 0, _, _, _ => (window.right, window.bottom)
  | fuel + 1, forth, back, ways =>
    let count := fuel + 2
    let marked (values : Array Int) (old new : Int × Int) (mark : Int) : Array Int :=
      let values := if new.1 < old.1 then ways.put values (new.1 - 1) mark else values
      if new.2 > old.2 then ways.put values (new.2 + 1) mark else values
    let forth' := widened least greatest forth
    let ways := { ways with forth := marked ways.forth forth forth' (-1) }
    let most := count + window.xs.size + window.ys.size
    match stepForth window isOdd back forth'.1 most forth'.2 ways with
    | .error place => place
    | .ok ways =>
      let back' := widened least greatest back
      let ways := { ways with back := marked ways.back back back' beyond }
      match
          stepBack window isOdd forth' back'.1 (count + window.xs.size + window.ys.size) back'.2
            ways with
      | .error place => place
      | .ok ways => meet window isOdd least greatest fuel forth' back' ways

/-- A pair of lines of the two lists that a shortest way goes through. -/
def middle (window : Window) : Int × Int :=
  let least := window.left - window.bottom
  let greatest := window.right - window.top
  let start := window.left - window.top
  let stop := window.right - window.bottom
  let ways : Ways :=
    { forth := Array.replicate (greatest - least + 5).toNat 0
      back := Array.replicate (greatest - least + 5).toNat 0
      base := least - 2 }
  let ways := { ways with
    forth := ways.put ways.forth start window.left
    back := ways.put ways.back stop window.right }
  let isOdd := (start - stop) % 2 ≠ 0
  meet window isOdd least greatest (window.xs.size + window.ys.size + 2) (start, start) (stop, stop)
    ways

/-- Goes down from the start as long as the lines are the same. -/
def trimmedTop : (fuel : Nat) → Window → Window
  | 0, window => window
  | fuel + 1, window =>
    if window.left < window.right ∧ window.top < window.bottom ∧
        window.same window.left window.top then
      trimmedTop fuel { window with left := window.left + 1, top := window.top + 1 }
    else window

/-- Goes up from the end as long as the lines are the same. -/
def trimmedBottom : (fuel : Nat) → Window → Window
  | 0, window => window
  | fuel + 1, window =>
    if window.left < window.right ∧ window.top < window.bottom ∧
        window.same (window.right - 1) (window.bottom - 1) then
      trimmedBottom fuel { window with right := window.right - 1, bottom := window.bottom - 1 }
    else window

/-- The numbers of the lines that are removed and of those that are added. -/
def changedLines : (fuel : Nat) → Window → List Nat × List Nat
  | 0, _ => ([], [])
  | fuel + 1, window =>
    let size := window.xs.size + window.ys.size + 1
    let window := trimmedBottom size (trimmedTop size window)
    let between (low high : Int) : List Nat :=
      (List.range (high - low).toNat).map fun i => low.toNat + i
    if window.left = window.right then ([], between window.top window.bottom)
    else if window.top = window.bottom then (between window.left window.right, [])
    else
      let (x, y) := middle window
      let (removed, added) := changedLines fuel { window with right := x, bottom := y }
      let (removed', added') := changedLines fuel { window with left := x, top := y }
      (removed ++ removed', added ++ added')

/-! ## Moving runs -/

/-- The marks of the lines of both lists while the runs of one of them are moved. -/
structure Marks where
  /-- Which lines of the list at hand are changed. -/
  mine : Array Bool
  /-- Which lines of the other list are. -/
  other : Array Bool
  /-- Where the run starts. -/
  start : Nat := 0
  /-- Where it ends. -/
  stop : Nat := 0
  /-- The place in the other list behind what corresponds. -/
  across : Int := 0
  /-- The last end of the run at which it corresponds to a run of the other list. -/
  matched : Nat := 0

/-- Whether a line is marked. -/
def isMarked (marks : Array Bool) (i : Int) : Bool :=
  if i < 0 then false else marks.getD i.toNat false

/-- Moves a place down as long as the lines there are marked. -/
def skipDown (marks : Array Bool) : (fuel : Nat) → (i : Int) → Int
  | 0, i => i
  | fuel + 1, i => if isMarked marks i then skipDown marks fuel (i + 1) else i

/-- Moves a place up, once and then as long as the lines there are marked. -/
def stepUp (marks : Array Bool) : (fuel : Nat) → (i : Int) → Int
  | 0, i => i
  | fuel + 1, i => if isMarked marks (i - 1) then stepUp marks fuel (i - 1) else i - 1

/-- Moves a start up as long as the line before it is marked. -/
def growUp (marks : Array Bool) : (fuel : Nat) → (i : Nat) → Nat
  | 0, i => i
  | fuel + 1, i => if i > 0 ∧ isMarked marks (i - 1 : Nat) then growUp marks fuel (i - 1) else i

/-- Moves the run back as long as the line before it is the same as its last one. -/
def moveBack (lines : Array Nat) : (fuel : Nat) → Marks → Marks
  | 0, marks => marks
  | fuel + 1, marks =>
    if marks.start > 0 ∧ lines[marks.start - 1]? = lines[marks.stop - 1]? then
      let mine := marks.mine.setIfInBounds (marks.start - 1) true
      let mine := mine.setIfInBounds (marks.stop - 1) false
      moveBack lines fuel { marks with
        mine := mine
        start := growUp mine (lines.size + 1) (marks.start - 1)
        stop := marks.stop - 1
        across := stepUp marks.other (marks.other.size + 1) marks.across }
    else marks

/-- Moves the run on as long as the line behind it is the same as its first one. -/
def moveOn (lines : Array Nat) : (fuel : Nat) → Marks → Marks
  | 0, marks => marks
  | fuel + 1, marks =>
    if marks.stop < lines.size ∧ lines[marks.start]? = lines[marks.stop]? then
      let mine := (marks.mine.setIfInBounds marks.start false).setIfInBounds marks.stop true
      let stop := (skipDown mine (lines.size + 1) (marks.stop + 1 : Nat)).toNat
      let next := marks.across + 1
      let isMatched := isMarked marks.other next
      moveOn lines fuel { marks with
        mine := mine
        start := marks.start + 1
        stop := stop
        across := skipDown marks.other (marks.other.size + 1) next
        matched := if isMatched then stop else marks.matched }
    else marks

/-- Moves the run back and on until it does not grow any more. -/
def settle (lines : Array Nat) : (fuel : Nat) → Marks → Marks
  | 0, marks => marks
  | fuel + 1, marks =>
    let length := marks.stop - marks.start
    let back := moveBack lines (lines.size + 1) marks
    let corresponds := isMarked back.other (back.across - 1)
    let on := moveOn lines (lines.size + 1)
      { back with matched := if corresponds then back.stop else lines.size }
    if length = on.stop - on.start then on else settle lines fuel on

/-- Moves the run back to where it corresponds to a run of the other list. -/
def moveToMatch : (fuel : Nat) → Marks → Marks
  | 0, marks => marks
  | fuel + 1, marks =>
    if marks.matched < marks.stop ∧ marks.start > 0 then
      moveToMatch fuel { marks with
        mine :=
          (marks.mine.setIfInBounds (marks.start - 1) true).setIfInBounds (marks.stop - 1) false
        start := marks.start - 1
        stop := marks.stop - 1
        across := stepUp marks.other (marks.other.size + 1) marks.across }
    else marks

/-- Moves the runs of one list from a line on, where the same number of lines that stay is before
the lines of both lists. -/
def moveRuns (lines : Array Nat) : (fuel : Nat) → (i : Nat) → (across : Int) →
    (mine other : Array Bool) →
    Array Bool
  | 0, _, _, mine, _ => mine
  | fuel + 1, i, across, mine, other =>
    if i ≥ lines.size then mine
    else if !isMarked mine i then
      moveRuns lines fuel (i + 1) (skipDown other (other.size + 1) across + 1) mine other
    else
      let stop := (skipDown mine (lines.size + 1) i).toNat
      let marks : Marks :=
        { mine := mine, other := other, start := i, stop := stop
          across := skipDown other (other.size + 1) across }
      let marks := moveToMatch (lines.size + 1) (settle lines (lines.size + 2) marks)
      moveRuns lines fuel marks.stop marks.across marks.mine other

/-! ## All together -/

/-- The differences that marks say, from a line of each list on. -/
def ofMarks (mine other : Array Bool) : (fuel : Nat) → (i j : Nat) → List Difference
  | 0, _, _ => []
  | fuel + 1, i, j =>
    if i ≥ mine.size ∧ j ≥ other.size then []
    else
      let stop := (skipDown mine (mine.size + 1) i).toNat
      let stop' := (skipDown other (other.size + 1) j).toNat
      if stop = i ∧ stop' = j then ofMarks mine other fuel (i + 1) (j + 1)
      else ⟨i, stop - i, j, stop' - j⟩ :: ofMarks mine other fuel stop stop'

/-- The differences between two lists of lines, which are given by the classes of lines that are the
same. A line whose class the other list lacks is removed or added beforehand. -/
def between (xs ys : Array Nat) : List Difference :=
  let kept (lines others : Array Nat) : Array Nat :=
    ((List.range lines.size).filter fun i =>
      (lines[i]?).any others.contains).toArray
  let keptXs := kept xs ys
  let keptYs := kept ys xs
  let window : Window :=
    { xs := keptXs.map fun i => xs.getD i 0
      ys := keptYs.map fun i => ys.getD i 0
      left := 0, right := keptXs.size, top := 0, bottom := keptYs.size }
  let (removed, added) := changedLines (xs.size + ys.size + 1) window
  let marksOf (size : Nat) (kept : Array Nat) (changed : List Nat) : Array Bool :=
    let all := Array.replicate size true
    let staying := (kept.toList.zipIdx.foldl (fun (marks : Array Bool) (line, _) =>
      marks.setIfInBounds line false) all)
    changed.foldl (fun marks i => marks.setIfInBounds (kept.getD i size) true) staying
  let mine := marksOf xs.size keptXs removed
  let other := marksOf ys.size keptYs added
  let mine := moveRuns xs (xs.size + 1) 0 0 mine other
  let other := moveRuns ys (ys.size + 1) 0 0 other mine
  ofMarks mine other (xs.size + ys.size + 1) 0 0

end Difference

end HistoryExpansion.Shell
