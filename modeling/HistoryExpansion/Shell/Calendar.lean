import HistoryExpansion.Shell.Word
import HistoryExpansion.Text.Blank

/-!
# Dates

A moment is a number of seconds since the start of the year 1970, and has a date and a time of day.
Dates follow the calendar in which a year has a leap day if four divides it, except for a full
century that four hundred does not divide.
-/

namespace HistoryExpansion.Shell

/-- A date and a time of day. -/
structure Moment where
  /-- The year. -/
  year : Int
  /-- The month, from one on. -/
  month : Nat
  /-- The day of the month, from one on. -/
  day : Nat
  /-- The seconds since midnight. -/
  second : Nat := 0
  deriving DecidableEq, Repr

namespace Moment

/-- The number of seconds of a day. -/
def secondsOfDay : Nat := 86400

/-- The days from the start of 1970 to a date. Years are counted from March, so that a leap day is
the last day of its year. -/
def dayNumber (year : Int) (month day : Nat) : Int :=
  let year := if month ≤ 2 then year - 1 else year
  let era := year.fdiv 400
  let ofEra := year - era * 400
  let fromMarch := if month > 2 then month - 3 else month + 9
  let ofYear : Int := ((153 * fromMarch + 2) / 5 + day - 1 : Nat)
  let dayOfEra := ofEra * 365 + ofEra / 4 - ofEra / 100 + ofYear
  era * 146097 + dayOfEra - 719468

/-- The seconds from the start of 1970 to a moment. -/
def toSeconds (moment : Moment) : Int :=
  dayNumber moment.year moment.month moment.day * secondsOfDay + moment.second

/-- The moment so many seconds after the start of 1970. -/
def ofSeconds (seconds : Int) : Moment :=
  let days := seconds.fdiv secondsOfDay + 719468
  let era := days.fdiv 146097
  let dayOfEra := (days - era * 146097).toNat
  let yearOfEra := (dayOfEra - dayOfEra / 1460 + dayOfEra / 36524 - dayOfEra / 146096) / 365
  let dayOfYear := dayOfEra - (365 * yearOfEra + yearOfEra / 4 - yearOfEra / 100)
  let fromMarch := (5 * dayOfYear + 2) / 153
  let day := dayOfYear - (153 * fromMarch + 2) / 5 + 1
  let month := if fromMarch < 10 then fromMarch + 3 else fromMarch - 9
  let year : Int := era * 400 + yearOfEra
  { year := if month ≤ 2 then year + 1 else year, month := month, day := day
    second := (seconds - seconds.fdiv secondsOfDay * secondsOfDay).toNat }

/-- The day of the week, from Sunday on. -/
def weekday (moment : Moment) : Nat :=
  ((dayNumber moment.year moment.month moment.day + 4) % 7).toNat

/-- The day of the year, from zero on. -/
def dayOfYear (moment : Moment) : Nat :=
  (dayNumber moment.year moment.month moment.day - dayNumber moment.year 1 1).toNat

/-- The names of the days of the week. -/
def weekdayNames : List String :=
  ["Sunday", "Monday", "Tuesday", "Wednesday", "Thursday", "Friday", "Saturday"]

/-- The names of the months. -/
def monthNames : List String :=
  ["January", "February", "March", "April", "May", "June", "July", "August", "September", "October",
    "November", "December"]

/-- A number with at least so many digits, filled with a character. -/
def filled (filler : Char) (width : Nat) (value : Nat) : String :=
  let digits := toString value
  String.ofList (List.replicate (width - digits.length) filler) ++ digits

/-- The year and the week that the moment belongs to, where weeks start on Mondays and belong to the
year that most of their days are in. -/
def weekOfYear (moment : Moment) : Int × Nat :=
  let weekday := (moment.weekday + 6) % 7
  let thursday := ofSeconds
    ((dayNumber moment.year moment.month moment.day - weekday + 3) * secondsOfDay)
  (thursday.year, thursday.dayOfYear / 7 + 1)

/-- What a letter of a date format stands for. `filler` is the character that numbers are filled
with if it is said. -/
def field? (moment : Moment) (filler : Option Char) (letter : Char) : Option String :=
  let hour := moment.second / 3600
  let minute := moment.second / 60 % 60
  let second := moment.second % 60
  let number (usual : Char) (width value : Nat) : Option String :=
    match filler.getD usual with
    | '-' => some (toString value)
    | c => some (filled c width value)
  let year := moment.year.toNat
  let short (name : Option String) : Option String :=
    name.map fun name => String.ofList (name.toList.take 3)
  let twelve := if hour % 12 = 0 then 12 else hour % 12
  let two (value : Nat) : String := filled '0' 2 value
  match letter with
  | 'Y' => number '0' 1 year
  | 'C' => number '0' 2 (year / 100)
  | 'y' => number '0' 2 (year % 100)
  | 'm' => number '0' 2 moment.month
  | 'd' => number '0' 2 moment.day
  | 'e' => number ' ' 2 moment.day
  | 'H' => number '0' 2 hour
  | 'k' => number ' ' 2 hour
  | 'I' => number '0' 2 twelve
  | 'l' => number ' ' 2 twelve
  | 'M' => number '0' 2 minute
  | 'S' => number '0' 2 second
  | 'N' => some "000000000"
  | 'j' => number '0' 3 (moment.dayOfYear + 1)
  | 's' => some (toString moment.toSeconds)
  | 'u' => number '0' 1 (if moment.weekday = 0 then 7 else moment.weekday)
  | 'w' => number '0' 1 moment.weekday
  | 'U' => number '0' 2 ((moment.dayOfYear + 7 - moment.weekday) / 7)
  | 'W' => number '0' 2 ((moment.dayOfYear + 7 - (moment.weekday + 6) % 7) / 7)
  | 'V' => number '0' 2 moment.weekOfYear.2
  | 'G' => number '0' 1 moment.weekOfYear.1.toNat
  | 'g' => number '0' 2 (moment.weekOfYear.1.toNat % 100)
  | 'q' => number '0' 1 ((moment.month + 2) / 3)
  | 'A' => weekdayNames[moment.weekday]?
  | 'a' => short weekdayNames[moment.weekday]?
  | 'B' => monthNames[moment.month - 1]?
  | 'b' => short monthNames[moment.month - 1]?
  | 'h' => short monthNames[moment.month - 1]?
  | 'p' => some (if hour < 12 then "AM" else "PM")
  | 'P' => some (if hour < 12 then "am" else "pm")
  | 'F' => some (toString year ++ "-" ++ two moment.month ++ "-" ++ two moment.day)
  | 'D' => some (two moment.month ++ "/" ++ two moment.day ++ "/" ++ two (year % 100))
  | 'x' => some (two moment.month ++ "/" ++ two moment.day ++ "/" ++ two (year % 100))
  | 'T' => some (two hour ++ ":" ++ two minute ++ ":" ++ two second)
  | 'X' => some (two hour ++ ":" ++ two minute ++ ":" ++ two second)
  | 'R' => some (two hour ++ ":" ++ two minute)
  | 'r' => some (two twelve ++ ":" ++ two minute ++ ":" ++ two second ++
      if hour < 12 then " AM" else " PM")
  | 'c' =>
    some ((short weekdayNames[moment.weekday]?).getD "" ++ " " ++
      (short monthNames[moment.month - 1]?).getD "" ++ " " ++ filled ' ' 2 moment.day ++ " " ++
      two hour ++ ":" ++ two minute ++ ":" ++ two second ++ " " ++ toString year)
  | 'Z' => some "UTC"
  | 'z' => some "+0000"
  | 'n' => some "\n"
  | 't' => some "\t"
  | '%' => some "%"
  | _ => none

/-- How a part of a format is to be written. -/
structure FieldStyle where
  /-- The character that numbers are filled with, if it is said; a hyphen stands for none. -/
  filler : Option Char := none
  /-- Whether small letters are made capital. -/
  capital : Bool := false
  /-- Whether capital and small letters are exchanged where that makes a difference. -/
  opposite : Bool := false

/-- Reads the signs of a style. -/
def readStyle : List Char → FieldStyle → FieldStyle × List Char
  | c :: rest, style =>
    if c = '-' then readStyle rest { style with filler := some '-' }
    else if c = '_' then readStyle rest { style with filler := some ' ' }
    else if c = '0' then readStyle rest { style with filler := some '0' }
    else if c = '+' then readStyle rest { style with filler := some '0' }
    else if c = '^' then readStyle rest { style with capital := true }
    else if c = '#' then readStyle rest { style with opposite := true }
    else (style, c :: rest)
  | [], style => (style, [])

/-- The distance from the first meridian, as a letter behind so many colons asks for it. -/
def zone? (colons : Nat) : Option String :=
  match colons with
  | 0 => some "+0000"
  | 1 => some "+00:00"
  | 2 => some "+00:00:00"
  | 3 => some "+00"
  | _ => none

/-- The text of a part in a style and a width. -/
def styled (style : FieldStyle) (width : Nat) (letter : Char) (text : String) : String :=
  let text :=
    if style.capital then text.toUpper
    else if style.opposite then (if letter = 'p' ∨ letter = 'Z' then text.toLower else text.toUpper)
    else text
  let isNumber := "CdeFgGHIjklmMNqsSuUVwWyY".toList.contains letter
  let usual := if isNumber ∧ letter ≠ 'e' ∧ letter ≠ 'k' ∧ letter ≠ 'l' then '0' else ' '
  let filler := style.filler.getD usual
  if filler = '-' then text
  else String.ofList (List.replicate (width - text.length) filler) ++ text

/-- A moment in a format, in which letters behind percent signs stand for its parts. -/
def format (moment : Moment) : (fuel : Nat) → List Char → List Char
  | 0, text => text
  | _, [] => []
  | fuel + 1, '%' :: rest =>
    let (style, behind) := readStyle rest {}
    let digits := behind.takeWhile isDigit
    let behind := behind.drop digits.length
    let colons := (behind.takeWhile (· = ':')).length
    let behind := behind.drop colons
    let behind :=
      match behind with
      | 'E' :: c :: behind => c :: behind
      | 'O' :: c :: behind => c :: behind
      | behind => behind
    match behind with
    | c :: behind =>
      let text :=
        if c = 'z' then zone? colons
        else if colons > 0 then none
        else moment.field? style.filler c
      match text with
      | some text =>
        (styled style (decimal digits) c text).toList ++ format moment fuel behind
      | none => '%' :: format moment fuel rest
    | [] => '%' :: rest
  | fuel + 1, c :: rest => c :: format moment fuel rest

/-- The text of a moment in a format. -/
def formatted (moment : Moment) (text : String) : String :=
  String.ofList (moment.format (text.length + 1) text.toList)

/-! ## Reading -/

/-- The words of a text, where a letter that separates a date from a time counts as a blank. -/
def wordsOf (text : List Char) : List (List Char) :=
  (Text.splitAtEach ' ' (text.map fun c => if c = '\t' then ' ' else c)).filter (!·.isEmpty)

/-- Whether a month has a day. -/
def isDay (year : Int) (month day : Nat) : Bool :=
  1 ≤ month && month ≤ 12 && 1 ≤ day &&
    (let moment := ofSeconds (dayNumber year month day * secondsOfDay)
    moment.month == month && moment.day == day)

/-- The date that a text of numbers between hyphens or slashes is. -/
def date? (text : List Char) : Option (Int × Nat × Nat) :=
  let check (year month day : List Char) : Option (Int × Nat × Nat) :=
    if [year, month, day].all (fun part => !part.isEmpty && part.all isDigit) ∧
        isDay (decimal year) (decimal month) (decimal day) then
      some (decimal year, decimal month, decimal day)
    else none
  match Text.splitAtEach '-' text, Text.splitAtEach '/' text with
  | [year, month, day], _ => check year month day
  | _, [a, b, c] => if a.length = 4 then check a b c else check c a b
  | _, _ => if text.length = 8 then check (text.take 4) ((text.drop 4).take 2) (text.drop 6)
      else none

/-- The seconds since midnight of a text of numbers between colons, or of an hour of half a day. -/
def time? (text : List Char) : Option Nat :=
  let text := text.takeWhile (· ≠ '.')
  let half := String.ofList ((text.drop (text.length - 2)).map Char.toLower)
  if half = "am" ∨ half = "pm" then
    let parts := (Text.splitAtEach ':' (text.take (text.length - 2)))
    let offset := if half = "pm" then 43200 else 0
    if !parts.all fun part => !part.isEmpty && part.all isDigit then none
    else
      match parts.map decimal with
      | hour :: rest =>
        if hour < 1 ∨ hour > 12 ∨ rest.length > 2 ∨ rest.any (60 ≤ ·) then none
        else
          some (hour % 12 * 3600 + (rest.headD 0) * 60 + (rest.getD 1 0) + offset)
      | [] => none
  else
  let parts := Text.splitAtEach ':' text
  if parts.all fun part => !part.isEmpty && part.all isDigit then
    match parts.map decimal with
    | [hour, minute] => if hour < 24 ∧ minute < 60 then some (hour * 3600 + minute * 60) else none
    | [hour, minute, second] =>
      if hour < 24 ∧ minute < 60 ∧ second < 61 then some (hour * 3600 + minute * 60 + second)
      else none
    | _ => none
  else none

/-- The number of a name among names, which may be cut to its first three letters. -/
def nameIndex? (names : List String) (word : List Char) : Option Nat :=
  let lower := String.ofList (word.map Char.toLower)
  names.findIdx? fun name =>
    name.toLower == lower ||
      (lower.length == 3 && String.ofList (name.toLower.toList.take 3) == lower)

/-- The seconds of a unit of time, or the months. -/
def unit? (word : List Char) : Option (Int × Int) :=
  let name := String.ofList (word.map Char.toLower)
  let name := if name.endsWith "s" ∧ name.length > 3 then String.ofList name.toList.dropLast
    else name
  match name with
  | "sec" => some (1, 0)
  | "second" => some (1, 0)
  | "min" => some (60, 0)
  | "minute" => some (60, 0)
  | "hour" => some (3600, 0)
  | "day" => some (86400, 0)
  | "week" => some (604800, 0)
  | "fortnight" => some (1209600, 0)
  | "month" => some (0, 1)
  | "year" => some (0, 12)
  | _ => none

/-- A moment some months later. -/
def addMonths (moment : Moment) (months : Int) : Moment :=
  let total := moment.year * 12 + (moment.month - 1 : Nat) + months
  let year := total.fdiv 12
  let month := (total - year * 12).toNat + 1
  ofSeconds (toSeconds { moment with year := year, month := month })

/-- Reads words that change a moment one after the other. -/
def readWords (now : Moment) : (fuel : Nat) → Moment → List (List Char) → Option Moment
  | 0, moment, _ => some moment
  | _, moment, [] => some moment
  | fuel + 1, moment, word :: rest =>
    let shifted (count : Int) (unit : List Char) (rest : List (List Char)) : Option Moment :=
      let (count, rest) :=
        match rest with
        | ['a', 'g', 'o'] :: rest => (-count, rest)
        | rest => (count, rest)
      match unit? unit with
      | none => none
      | some (seconds, months) =>
        let moment := if months = 0 then moment else moment.addMonths (months * count)
        readWords now fuel (ofSeconds (moment.toSeconds + seconds * count)) rest
    let name := String.ofList (word.map Char.toLower)
    let signed (sign : Int) (digits : List Char) : Option Moment :=
      let number := digits.takeWhile isDigit
      let count := sign * (decimal number : Int)
      match digits.drop number.length, rest with
      | [], unit :: rest => shifted count unit rest
      | [], [] => none
      | unit, rest => shifted count unit rest
    match date? word, time? word with
    | some (year, month, day), _ =>
      readWords now fuel { moment with year := year, month := month, day := day, second := 0 } rest
    | none, some second => readWords now fuel { moment with second := second } rest
    | none, none =>
      if name = "utc" ∨ name = "z" ∨ name = "gmt" then readWords now fuel moment rest
      else if name = "now" ∨ name = "today" then readWords now fuel moment rest
      else if name = "yesterday" then
        readWords now fuel (ofSeconds (moment.toSeconds - secondsOfDay)) rest
      else if name = "tomorrow" then
        readWords now fuel (ofSeconds (moment.toSeconds + secondsOfDay)) rest
      else if name = "midnight" then readWords now fuel { moment with second := 0 } rest
      else if name = "noon" then readWords now fuel { moment with second := 43200 } rest
      else if name = "next" then
        match rest with
        | unit :: rest => shifted 1 unit rest
        | [] => none
      else if name = "last" then
        match rest with
        | unit :: rest => shifted (-1) unit rest
        | [] => none
      else
        match word, nameIndex? monthNames word with
        | ['+'], _ => readWords now fuel moment rest
        | ['-'], _ =>
          match rest with
          | digits :: rest => readWords now fuel moment (('-' :: digits) :: rest)
          | [] => none
        | '+' :: digits, _ => signed 1 digits
        | '-' :: digits, _ => signed (-1) digits
        | _, some month =>
          match rest with
          | day :: year :: rest =>
            let day := day.takeWhile isDigit
            if day.isEmpty then none
            else if !year.isEmpty ∧ year.all isDigit then
              readWords now fuel
                { moment with
                  year := decimal year, month := month + 1, day := decimal day, second := 0 } rest
            else
              readWords now fuel { moment with month := month + 1, day := decimal day, second := 0 }
                (year :: rest)
          | [day] =>
            let day := day.takeWhile isDigit
            if day.isEmpty then none
            else some { moment with month := month + 1, day := decimal day, second := 0 }
          | [] => none
        | c :: _, none =>
          if isDigit c then
            let number := word.takeWhile isDigit
            match rest with
            | month :: year :: behind =>
              match nameIndex? monthNames month with
              | some month =>
                if word.length = number.length ∧ year.all isDigit then
                  readWords now fuel
                    { moment with
                      year := decimal year, month := month + 1, day := decimal number
                      second := 0 }
                    behind
                else none
              | none => signed 1 word
            | _ => signed 1 word
          else if (nameIndex? weekdayNames word).isSome then readWords now fuel moment rest
          else none
        | [], none => readWords now fuel moment rest

/-- The moment that a text says, given the present one. -/
def read? (now : Moment) (text : String) : Option Moment :=
  match dropSpaces text.toList with
  | '@' :: '-' :: digits => number? digits |>.map fun n => ofSeconds (-(n : Int))
  | '@' :: digits => number? digits |>.map fun n => ofSeconds n
  | chars =>
    let chars := chars.zipIdx.map fun (c, i) =>
      if c = 'T' ∧ i > 0 ∧ ((chars[i - 1]?).map isDigit).getD false then ' '
      else if c = 'Z' then ' '
      else c
    let words := wordsOf chars
    if words.isEmpty then some { now with second := 0 }
    else readWords now (words.length + 1) now words
where
  /-- Drops blanks at the start. -/
  dropSpaces (text : List Char) : List Char :=
    text.dropWhile (· = ' ')
  /-- The number that digits are, with a fraction left out. -/
  number? (digits : List Char) : Option Nat :=
    let whole := digits.takeWhile (· ≠ '.')
    if whole.isEmpty ∨ !whole.all isDigit then none else some (decimal whole)

end Moment

/-- The moment at which everything starts. -/
def startMoment : Moment := { year := 2026, month := 1, day := 1 }

end HistoryExpansion.Shell
