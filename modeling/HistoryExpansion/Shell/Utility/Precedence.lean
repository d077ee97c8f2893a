import HistoryExpansion.Shell.Utility.Order
import HistoryExpansion.Shell.Utility.Text

/-!
# An order that pairs ask for

Words are put in an order in which the first of each of some pairs stands before the second one. A
pair that closes a circle is told and left out.
-/

namespace HistoryExpansion.Shell.Utility

/-- A word with what is known of it. -/
structure Ranked where
  /-- The word. -/
  word : Octets
  /-- How many words must still stand before it. -/
  before : Nat := 0
  /-- The words that must stand behind it, the latest pair first. -/
  behind : List Octets := []
  /-- The word that was met before it on the way round a circle. -/
  link : Option Octets := none
  /-- Whether it was written. -/
  isDone : Bool := false

/-- Words in the order of their octets. -/
abbrev Ranking := List Ranked

/-- The entry of a word. -/
def Ranking.at? (ranking : Ranking) (word : Octets) : Option Ranked :=
  ranking.find? (·.word == word)

/-- Changes the entry of a word. -/
def Ranking.change (ranking : Ranking) (word : Octets) (change : Ranked → Ranked) : Ranking :=
  ranking.map fun entry => if entry.word == word then change entry else entry

/-- The entries of the words of pairs. -/
def rankingOf (pairs : List (Octets × Octets)) : Ranking :=
  let words := (pairs.flatMap fun (a, b) => [a, b]).eraseDups
  let entries : Ranking :=
    (words.mergeSort fun a b => compareOctets a b != .gt).map fun word => { word := word }
  pairs.foldl
    (fun ranking (a, b) =>
      if a = b then ranking
      else
        (Ranking.change ranking b fun entry => { entry with before := entry.before + 1 }).change a
          fun entry => { entry with behind := b :: entry.behind })
    entries

/-- Writes the words of a queue, and those that are free then. -/
def writeFree : (fuel : Nat) → (queue : List Octets) → Ranking → List Octets × Ranking
  | 0, _, ranking => ([], ranking)
  | _, [], ranking => ([], ranking)
  | fuel + 1, word :: queue, ranking =>
    let behind := ((Ranking.at? ranking word).map Ranked.behind).getD []
    let ranking := Ranking.change ranking word fun entry => { entry with isDone := true }
    let (queue, ranking) := behind.foldl
      (fun ((queue, ranking) : List Octets × Ranking) other =>
        let ranking := Ranking.change ranking other fun entry =>
          { entry with before := entry.before - 1 }
        let isFree := ((Ranking.at? ranking other).map Ranked.before) == some 0
        (if isFree then queue ++ [other] else queue, ranking))
      (queue, ranking)
    let (written, ranking) := writeFree fuel queue ranking
    (word :: written, ranking)

/-- The words of a circle from one on along their links, up to another one. -/
def circleFrom (ranking : Ranking) (stop : Octets) : (fuel : Nat) → (word : Octets) → List Octets
  | 0, _ => []
  | fuel + 1, word =>
    if word = stop then [word]
    else
      match (Ranking.at? ranking word).bind Ranked.link with
      | some next => word :: circleFrom ranking stop fuel next
      | none => [word]

/-- Goes once through the words that are not free, looking for a circle back to where the search
stands. Gives the circle that is found, or where the search stands then. -/
def searchCircle (fuel : Nat) : (words : List Octets) → (at' : Option Octets) → Ranking →
    Option (List Octets × Octets) × Option Octets × Ranking
  | [], at', ranking => (none, at', ranking)
  | word :: words, at', ranking =>
    match Ranking.at? ranking word with
    | none => searchCircle fuel words at' ranking
    | some entry =>
      if entry.before = 0 then searchCircle fuel words at' ranking
      else
        match at' with
        | none => searchCircle fuel words (some word) ranking
        | some goal =>
          if !entry.behind.contains goal then searchCircle fuel words at' ranking
          else if entry.link.isSome then
            (some (circleFrom ranking word fuel goal, goal), none, ranking)
          else
            searchCircle fuel words (some word)
              (Ranking.change ranking word fun entry => { entry with link := some goal })

/-- Looks for a circle again and again, going on where the search stands. -/
def findCircle : (fuel : Nat) → (at' : Option Octets) → Ranking → Option (List Octets × Octets)
  | 0, _, _ => none
  | fuel + 1, at', ranking =>
    match searchCircle (ranking.length + 1) (ranking.map Ranked.word) at' ranking with
    | (some found, _, _) => some found
    | (none, at', ranking) => findCircle fuel at' ranking

/-- Writes all words, and tells the circles that are met. -/
def writeRanked (name source : String) : (fuel : Nat) → Ranking → Report → Report
  | 0, _, report => report
  | fuel + 1, ranking, report =>
    let free := (ranking.filter fun entry => entry.before = 0 ∧ !entry.isDone).map Ranked.word
    let (written, ranking) := writeFree (ranking.length + 1) free ranking
    let report := report.adds (ofLines written)
    if ranking.all Ranked.isDone then report
    else
      let report := report.complains (name ++ ": " ++ source ++ ": input contains a loop:")
      match findCircle (2 * ranking.length + 2) none
          (ranking.map fun entry => { entry with link := none }) with
      | none => report
      | some (circle, goal) =>
        let report := circle.foldl
          (fun (report : Report) word =>
            report.warns (name ++ ": " ++ String.ofList (Utf8.decodeLossy word)))
          report
        let last := circle.getLast?.getD goal
        let ranking := Ranking.change ranking goal fun entry =>
          { entry with before := entry.before - 1 }
        let ranking := Ranking.change ranking last fun entry =>
          { entry with behind := entry.behind.erase goal }
        writeRanked name source fuel ranking report

/-- The words of octets. -/
def wordsIn (octets : Octets) : List Octets :=
  (octets.splitBy fun a b => !isSpaceOctet a && !isSpaceOctet b).filter fun word =>
    !word.all isSpaceOctet

/-- Words two by two. -/
def inPairs : List Octets → List (Octets × Octets)
  | a :: b :: rest => (a, b) :: inPairs rest
  | _ => []

/-- Puts words in an order that agrees with pairs of them. -/
def tsort : Utility := fun task =>
  task.withOptions "" "" fun line =>
    match line.operands with
    | _ :: extra :: _ => task.misused ("extra operand " ++ quotedArgument extra)
    | operands =>
      let word := operands.headD "-"
      match task.octetsOf word with
      | .error .isDirectory =>
        task.fails (quoted word ++ ": read error: " ++ DiskError.isDirectory.reason)
      | .error error => task.fails (plainWording word error)
      | .ok octets =>
        let idle := if isInputName word then { task.idle with unread := [] } else task.idle
        let words := wordsIn octets
        if words.length % 2 = 1 then
          idle.complains (task.name ++ ": " ++ quoted word ++
            ": input contains an odd number of tokens")
        else
          let pairs := inPairs words
          writeRanked task.name (quoted word) (pairs.length + 2) (rankingOf pairs) idle

end HistoryExpansion.Shell.Utility
