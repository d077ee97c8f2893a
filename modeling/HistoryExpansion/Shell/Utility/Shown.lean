import HistoryExpansion.Disk.Change
import HistoryExpansion.Shell.Calendar
import HistoryExpansion.Shell.Permissions
import HistoryExpansion.Shell.Utility.Basic

/-!
# How entries of the disk are shown

The letters for the permissions of an entry, its size and the room that it takes, as listings and
descriptions of files show them.
-/

namespace HistoryExpansion.Shell

/-- The letter for the kind of an entry. -/
def Entry.letter : Entry → Char
  | .directory => 'd'
  | .link _ => 'l'
  | .device _ => 'c'
  | _ => '-'

/-- The name of the kind of an entry. -/
def Entry.kindName : Entry → String
  | .directory => "directory"
  | .link _ => "symbolic link"
  | .device _ => "character special file"
  | .file [] => "regular empty file"
  | _ => "regular file"

/-- The three letters of a group of permissions; the last one also tells of a further bit. -/
def tripleLetters (bits : Nat) (further : Bool) (mark : Char) : List Char :=
  let last :=
    match bits.testBit 0, further with
    | true, true => mark
    | false, true => mark.toUpper
    | true, false => 'x'
    | false, false => '-'
  [if bits.testBit 2 then 'r' else '-', if bits.testBit 1 then 'w' else '-', last]

/-- The letters for the kind and the permissions of an entry. -/
def modeLetters (entry : Entry) (mode : Nat) : String :=
  String.ofList (Entry.letter entry :: (tripleLetters (mode / 64 % 8) (mode.testBit 11) 's' ++
    tripleLetters (mode / 8 % 8) (mode.testBit 10) 's' ++
    tripleLetters (mode % 8) (mode.testBit 9) 't'))

/-- The number of octets of a block of the disk. -/
def blockSize : Nat := 4096

/-- The size of an entry in octets. -/
def Entry.size : Entry → Nat
  | .directory => blockSize
  | .link target => target.utf8ByteSize
  | .device _ => 0
  | entry => ((HistoryExpansion.Entry.content? entry).getD []).length

/-- The room that an entry takes, in units of half a kibibyte. -/
def Entry.sectors : Entry → Nat
  | .link _ => 0
  | .device _ => 0
  | entry => (Entry.size entry + blockSize - 1) / blockSize * 8

/-- The number of names that an entry has: a directory is named by itself and by those in it too. -/
def nameCount (disk : Disk) (place : Location) (entry : Entry) : Nat :=
  match entry with
  | .directory =>
    2 + ((disk.names place).filter fun name =>
      disk.entry? (place ++ [name]) == some .directory).length
  | _ => 1

/-- A size in a unit that keeps it short, rounded up. -/
def shortSize (size : Nat) : String :=
  let units := ["K", "M", "G", "T", "P", "E"]
  if size < 1024 then toString size
  else
    let rec go (fuel scale : Nat) (units : List String) : String :=
      match fuel, units with
      | 0, _ => toString size
      | _, [] => toString size
      | fuel + 1, unit :: units =>
        let tenths := (size * 10 + scale - 1) / scale
        let whole := (size + scale - 1) / scale
        if tenths < 100 then toString (tenths / 10) ++ "." ++ toString (tenths % 10) ++ unit
        else if whole < 1024 then toString whole ++ unit
        else go fuel (scale * 1024) units
    go 7 1024 units

/-- The time of a moment, in thousandths of a second from the start. -/
def timeOf (moment : Moment) : Int :=
  (moment.toSeconds - startMoment.toSeconds) * 1000

/-- The moment of a time. -/
def momentOf (time : Int) : Moment :=
  Moment.ofSeconds (startMoment.toSeconds + time.fdiv 1000)

/-- The present moment. -/
def presentMoment (disk : Disk) : Moment :=
  momentOf disk.now

/-- The seconds of half a year. -/
def secondsOfHalfYear : Int := 31556952 / 2

/-- A time as listings show it: with the time of day if it lies within half a year before the
present, and else with the year. -/
def shownTime (disk : Disk) (time : Int) : String :=
  let isRecent := time ≤ disk.now ∧ disk.now - secondsOfHalfYear * 1000 < time
  (momentOf time).formatted (if isRecent then "%b %e %H:%M" else "%b %e  %Y")

/-- How much later an entry was changed than another one: whether it comes before it when the latest
one comes first. -/
def changedAfter (disk : Disk) (a b : Location) : Bool :=
  let first := disk.time a
  let second := disk.time b
  if first = second then
    disk.times.findIdx (·.1 == a) < disk.times.findIdx (·.1 == b)
  else second < first

end HistoryExpansion.Shell
