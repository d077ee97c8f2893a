import HistoryExpansion.Number
import HistoryExpansion.Shell.Pattern
import HistoryExpansion.Shell.Utility.Shown

/-!
# Listing directories

The entries of directories in an order that can be chosen, one to a line, in columns, or with all
that is known of them.
-/

namespace HistoryExpansion.Shell.Utility

/-- Something that is listed. -/
structure Listed where
  /-- The name it is shown by. -/
  name : String
  /-- Its place. -/
  place : Location
  /-- What it is. -/
  entry : Entry

/-- How what is listed is laid out. -/
inductive ListingLayout where
  /-- One to a line. -/
  | lines
  /-- One to a line with all that is known. -/
  | long
  /-- In columns, which are filled one after the other, or line by line. -/
  | columns (across : Bool)
  /-- One behind the other with commas between them. -/
  | commas
  deriving DecidableEq

/-- The layout that letters ask for, the last of which counts. -/
def layoutOf (letters : List Char) : ListingLayout :=
  letters.foldl
    (fun layout c =>
      if c = 'l' ∨ c = 'n' ∨ c = 'g' ∨ c = 'o' then .long
      else if c = 'C' then .columns false
      else if c = 'x' then .columns true
      else if c = 'm' then .commas
      else if c = '1' ∧ layout ≠ .long then .lines
      else layout)
    .lines

/-- The sign that shows what kind of entry something is. -/
def kindSign (disk : Disk) (line : CommandLine) (listed : Listed) : String :=
  match listed.entry with
  | .directory => if line.hasAny "Fp" then "/" else ""
  | .link _ => if line.has 'F' then "@" else ""
  | .device _ => ""
  | _ => if line.has 'F' ∧ disk.mode listed.place &&& 0o111 ≠ 0 then "*" else ""

/-- The name of what is listed, with its sign. -/
def shownName (disk : Disk) (line : CommandLine) (listed : Listed) : String :=
  let name := if line.has 'Q' then "\"" ++ listed.name ++ "\"" else listed.name
  let isLong := layoutOf line.letters == .long
  match listed.entry, isLong with
  | .link target, true =>
    let path := Path.ofParts true (listed.place.dropLast ++
      (if Path.isAbsolute target then [] else Path.parts target))
    let path := if Path.isAbsolute target then target else path
    let sign :=
      match disk.locate path with
      | .ok place =>
        match disk.entry? place with
        | some entry => kindSign disk line ⟨"", place, entry⟩
        | none => ""
      | .error _ => ""
    name ++ " -> " ++ target ++ sign
  | _, _ => name ++ kindSign disk line listed

/-- The ending of a name, from its last dot on. -/
def endingOf (name : String) : String :=
  match Text.splitAtEach '.' name.toList with
  | [_] => ""
  | parts => "." ++ String.ofList (parts.getLast?.getD [])

/-- What is listed in the order that letters ask for. -/
def inListingOrder (disk : Disk) (line : CommandLine) (entries : List Listed) : List Listed :=
  let byName := entries.mergeSort fun a b => a.name ≤ b.name
  let sorted :=
    match (line.letters.filter "SXtUf".toList.contains).getLast? with
    | some 'S' => byName.mergeSort fun a b => Entry.size b.entry ≤ Entry.size a.entry
    | some 'X' => byName.mergeSort fun a b => endingOf a.name ≤ endingOf b.name
    | some 't' => byName.mergeSort fun a b => !changedAfter disk b.place a.place
    | some _ => entries
    | none => byName
  let ordered := if line.has 'r' then sorted.reverse else sorted
  if line.has 'D' then
    let isDirectory (listed : Listed) : Bool := listed.entry == .directory
    ordered.filter isDirectory ++ ordered.filter (!isDirectory ·)
  else ordered

/-- A text filled with blanks on its left. -/
def filledLeft (width : Nat) (text : String) : String :=
  String.ofList (List.replicate (width - text.length) ' ') ++ text

/-- A text filled with blanks on its right. -/
def filledRight (width : Nat) (text : String) : String :=
  text ++ String.ofList (List.replicate (width - text.length) ' ')

/-- The size of an entry as it is shown. -/
def sizeText (line : CommandLine) (size : Nat) : String :=
  if line.has 'h' then shortSize size else toString size

/-- The room that an entry takes as it is shown. -/
def roomText (line : CommandLine) (sectors : Nat) : String :=
  if line.has 'h' then shortSize (sectors * 512) else toString (sectors / 2)

/-- Texts in rows, with the columns filled to their widths; the flags tell which ones stand on the
right. -/
def alignedRows (right : List Bool) (rows : List (List String)) : List String :=
  let widths := (List.range right.length).map fun i =>
    (rows.map fun row => (row.getD i "").length).foldl max 0
  rows.map fun row =>
    String.intercalate " " ((row.zip (right.zip widths)).map fun (text, isRight, width) =>
      if isRight then filledLeft width text else filledRight width text)

/-- The time of an entry in the style that is asked for: a format, or the name of one. -/
def listedTime (disk : Disk) (line : CommandLine) (place : Location) : String :=
  let time := disk.time place
  match (line.value? 'y').map String.toList with
  | some ('+' :: format) => (momentOf time).formatted (String.ofList format)
  | some style =>
    if String.ofList style = "full-iso" then
      (momentOf time).formatted "%Y-%m-%d %H:%M:%S.%N %z"
    else if String.ofList style = "long-iso" then (momentOf time).formatted "%Y-%m-%d %H:%M"
    else if String.ofList style = "iso" then
      (momentOf time).formatted
        (if shownTime disk time = (momentOf time).formatted "%b %e  %Y" then "%Y-%m-%d "
          else "%m-%d %H:%M")
    else shownTime disk time
  | none => shownTime disk time

/-- The number of a place among those of the disk. -/
def placeNumber (disk : Disk) (place : Location) : Nat :=
  disk.entries.findIdx (·.1 == place) + 2

/-- All that is known of entries, one to a line. -/
def longRows (disk : Disk) (line : CommandLine) (entries : List Listed) : List String :=
  let owner := if line.has 'n' then "0" else "root"
  let rows := entries.map fun listed =>
    let size :=
      match listed.entry with
      | .device .null => "1, 3"
      | .device .zero => "1, 5"
      | .device .full => "1, 7"
      | entry => sizeText line (Entry.size entry)
    (if line.has 'i' then [toString (placeNumber disk listed.place)] else []) ++
      (if line.has 's' then [roomText line (Entry.sectors listed.entry)] else []) ++
      [modeLetters listed.entry (disk.mode listed.place),
        toString (nameCount disk listed.place listed.entry)] ++
      (if line.has 'g' then [] else [owner]) ++
      (if line.has 'o' ∨ line.has 'G' then [] else [owner]) ++ [size]
  let right := (if line.has 'i' then [true] else []) ++
    (if line.has 's' then [true] else []) ++ [false, true] ++
    (if line.has 'g' then [] else [false]) ++
    (if line.has 'o' ∨ line.has 'G' then [] else [false]) ++ [true]
  (alignedRows right rows).zip entries |>.map fun (row, listed) =>
    row ++ " " ++ listedTime disk line listed.place ++ " " ++ shownName disk line listed

/-- Blanks from one column to another, as tabs where they reach. -/
def indentation : (fuel : Nat) → (start stop : Nat) → List Char
  | 0, _, _ => []
  | fuel + 1, start, stop =>
    if stop ≤ start then []
    else if stop / 8 > (start + 1) / 8 then
      '\t' :: indentation fuel (start + 8 - start % 8) stop
    else ' ' :: indentation fuel (start + 1) stop

/-- The width of a line of columns. -/
def listingWidth : Nat := 80

/-- Names in as many columns as a line holds. -/
def inColumns (across : Bool) (names : List String) : String :=
  let count := names.length
  let rowsFor (columns : Nat) : Nat := (count + columns - 1) / columns
  let columnOf (columns i : Nat) : Nat := if across then i % columns else i / rowsFor columns
  let widthsFor (columns : Nat) : List Nat :=
    (List.range columns).map fun column =>
      (names.zipIdx.map fun (name, i) =>
        if columnOf columns i = column then
          name.length + (if column + 1 = columns then 0 else 2)
        else 0).foldl max 3
  let fits (columns : Nat) : Bool := sumOf (widthsFor columns) < listingWidth
  let columns := ((List.range' 1 (min count (listingWidth / 3))).reverse.find? fits).getD 1
  let widths := widthsFor columns
  let rows := rowsFor columns
  let rowOf (row : Nat) : List (Nat × String) :=
    (List.range columns).filterMap fun column =>
      let i := if across then row * columns + column else column * rows + row
      (names[i]?).map fun name => (column, name)
  let lineOf (row : Nat) : List Char :=
    ((rowOf row).foldl
      (fun ((text, at', start) : List Char × Nat × Nat) (column, name) =>
        let text := text ++ indentation listingWidth at' start ++ name.toList
        (text, start + name.length, start + widths.getD column 0))
      (([], 0, 0) : List Char × Nat × Nat)).1
  String.join ((List.range rows).map fun row => String.ofList (lineOf row) ++ "\n")

/-- Names with commas between them, in lines that are not too long. -/
def withCommas (names : List String) : String :=
  let (text, _) := names.zipIdx.foldl
    (fun ((text, at') : String × Nat) (name, i) =>
      let size := name.length
      if i = 0 then (name, size)
      else if at' + size + 2 < listingWidth then
        (text ++ ", " ++ name, at' + 2 + size)
      else (text ++ ",\n" ++ name, size))
    ("", 0)
  if names.isEmpty then "" else text ++ "\n"

/-- Entries in the layout that letters ask for. -/
def laidOut (disk : Disk) (line : CommandLine) (entries : List Listed) : String :=
  let rooms := entries.map fun listed => roomText line (Entry.sectors listed.entry)
  let width := (rooms.map String.length).foldl max 0
  let names := (entries.zip rooms).map fun (listed, room) =>
    (if line.has 'i' then toString (placeNumber disk listed.place) ++ " " else "") ++
      (if line.has 's' then filledLeft width room ++ " " else "") ++ shownName disk line listed
  match layoutOf line.letters with
  | .lines => String.join (names.map (· ++ "\n"))
  | .long => String.join ((longRows disk line entries).map (· ++ "\n"))
  | .columns across => if names.isEmpty then "" else inColumns across names
  | .commas => withCommas names

/-- What stands in a directory and is not hidden. -/
def listedIn (disk : Disk) (line : CommandLine) (place : Location) : List Listed :=
  let patterns := line.allValues 'I'
  let isIgnored (name : String) : Bool :=
    (patterns.any fun pattern =>
      fitsPattern (pattern.toList.map fun c => ⟨c, false⟩) name.toList) ||
      (line.has 'B' && name.endsWith "~")
  let showsAll := line.has 'a' || line.has 'f'
  let names := (disk.names place).filter fun name =>
    (showsAll || line.has 'A' || !name.startsWith ".") && !isIgnored name
  let found := names.filterMap fun name =>
    let place := place ++ [name]
    (disk.entry? place).map fun entry =>
      match entry, line.has 'L' with
      | .link _, true =>
        match disk.locate (Path.ofParts true place) with
        | .ok other => ⟨name, other, (disk.entry? other).getD entry⟩
        | .error _ => ⟨name, place, entry⟩
      | _, _ => ⟨name, place, entry⟩
  let dots : List Listed :=
    if showsAll then [⟨".", place, .directory⟩, ⟨"..", place.dropLast, .directory⟩] else []
  inListingOrder disk line (dots ++ found)

/-- The listing of a directory, with a heading if there is more than one, and of those below it if
that is asked for. -/
def directoryListing (disk : Disk) (line : CommandLine) (headed : Bool) : (fuel : Nat) →
    (path : String) → (place : Location) → List String
  | 0, _, _ => []
  | fuel + 1, path, place =>
    let entries := listedIn disk line place
    let total :=
      if layoutOf line.letters == .long ∨ line.has 's' then
        "total " ++ roomText line (sumOf (entries.map fun listed => Entry.sectors listed.entry)) ++
          "\n"
      else ""
    let heading := if headed then path ++ ":\n" else ""
    let own := heading ++ total ++ laidOut disk line entries
    let inner := if !line.has 'R' then [] else entries.flatMap fun listed =>
      if listed.entry == .directory ∧ listed.name ≠ "." ∧ listed.name ≠ ".." then
        let slash := if path.endsWith "/" then "" else "/"
        directoryListing disk line headed fuel (path ++ slash ++ listed.name) listed.place
      else []
    own :: inner

/-- What an operand names, if it is there. Links are followed to directories unless more than names
is shown. -/
def listedOperand (disk : Disk) (line : CommandLine) (word : String) : Except DiskError Listed :=
  let keeps := (layoutOf line.letters == .long || line.hasAny "dF") && !line.hasAny "LH"
  let itself : Except DiskError Listed := do
    let place ← disk.locateItself word
    match disk.entry? place with
    | some entry => .ok ⟨word, place, entry⟩
    | none => .error .notFound
  if keeps then itself
  else
    match disk.locate word with
    | .error _ => itself
    | .ok place =>
      match disk.entry? place with
      | some entry => .ok ⟨word, place, entry⟩
      | none => itself

/-- The options of listings. -/
def listingRules : OptionRules where
  flags := "1aAbBcCdfFgGhHiklLmnNopqQrRsStuUxXD"
  takers := "wITy"
  optional := "#"
  names := [("all", 'a'), ("almost-all", 'A'), ("directory", 'd'), ("classify", 'F'),
    ("human-readable", 'h'), ("reverse", 'r'), ("recursive", 'R'), ("size", 's'),
    ("group-directories-first", 'D'), ("color", '#'), ("no-group", 'G'), ("numeric-uid-gid", 'n'),
    ("dereference", 'L'), ("ignore", 'I'), ("ignore-backups", 'B'), ("quote-name", 'Q'),
    ("literal", 'N'), ("width", 'w'), ("time-style", 'y'),
    ("inode", 'i'), ("file-type", 'p')]

/-- Lists directories and files. -/
def ls : Utility := fun task =>
  let body (line : CommandLine) : Report :=
    let disk := task.disk
    let words := if line.operands.isEmpty then ["."] else line.operands
    let found := words.map fun word => (word, listedOperand disk line word)
    let report := (found.mergeSort fun a b => a.1 ≤ b.1).foldl
      (fun report (word, result) =>
        match result with
        | .ok _ => report
        | .error error =>
          report.complains
            (task.name ++ ": cannot access " ++ quotedAlways word ++ ": " ++ error.reason) 2)
      task.idle
    let shown := inListingOrder disk line (found.filterMap fun (_, result) => result.toOption)
    let isOpened (listed : Listed) : Bool := listed.entry == .directory && !line.has 'd'
    let files := shown.filter (!isOpened ·)
    let directories := shown.filter isOpened
    let headed := line.has 'R' || words.length > 1
    let parts := (if files.isEmpty then [] else [laidOut disk line files]) ++
      directories.flatMap fun listed =>
        directoryListing disk line headed (disk.entries.length + 1) listed.name listed.place
    report.adds (Utf8.ofString (String.intercalate "\n" parts))
  task.withRules listingRules body 2

end HistoryExpansion.Shell.Utility
