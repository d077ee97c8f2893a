import HistoryExpansion.Shell.Utility.Files
import HistoryExpansion.Shell.Utility.Text

/-!
# Octets as numbers and characters

Octets are shown in rows of a fixed length, each row behind the number of octets before it. A row is
shown in one format or in several, one under the other, whose columns then have the same width.
-/

namespace HistoryExpansion.Shell.Utility

/-- What octets are shown as. -/
inductive DumpKind where
  /-- Names of characters. -/
  | names
  /-- Characters, or what stands for them behind a backslash. -/
  | characters
  /-- Whole numbers with a sign. -/
  | signed
  /-- Whole numbers. -/
  | unsigned
  /-- Numbers in base eight. -/
  | octal
  /-- Numbers in base sixteen. -/
  | hexadecimal
  deriving DecidableEq

/-- How octets are shown. -/
structure DumpFormat where
  /-- What they are shown as. -/
  kind : DumpKind
  /-- How many of them are one item. -/
  size : Nat
  /-- Whether the row is shown as text behind. -/
  showsText : Bool := false

/-- The greatest number of digits of an item, with a place for a sign if it may have one. -/
def DumpFormat.width (format : DumpFormat) : Nat :=
  match format.kind with
  | .names => 3
  | .characters => 3
  | .signed => [0, 4, 6, 8, 11, 13, 16, 18, 20].getD format.size 20
  | .unsigned => [0, 3, 5, 8, 10, 13, 15, 17, 20].getD format.size 20
  | .octal => [0, 3, 6, 8, 11, 14, 16, 19, 22].getD format.size 22
  | .hexadecimal => 2 * format.size

/-- The names of the control characters. -/
def controlNames : List String :=
  ["nul", "soh", "stx", "etx", "eot", "enq", "ack", "bel", "bs", "ht", "nl", "vt", "ff", "cr", "so",
    "si", "dle", "dc1", "dc2", "dc3", "dc4", "nak", "syn", "etb", "can", "em", "sub", "esc", "fs",
    "gs", "rs", "us", "sp"]

/-- A number in a base with at least so many digits. -/
def digitsIn (base width value : Nat) : String :=
  let digits := Nat.toDigits base value
  String.ofList (List.replicate (width - digits.length) '0' ++ digits)

/-- An item as it is shown. The octets come in the order of the number, the lowest one first. -/
def DumpFormat.item (format : DumpFormat) (octets : Octets) : String :=
  let value := octets.foldr (fun octet value => value * 256 + octet.toNat) 0
  let octet := octets.headD 0
  match format.kind with
  | .names =>
    let code := octet.toNat % 128
    if code = 127 then "del"
    else (controlNames[code]?).getD (String.ofList [Char.ofNat code])
  | .characters =>
    if octet = 0 then "\\0"
    else
      match controlLetter? octet with
      | some letter => "\\" ++ String.ofList [Char.ofNat letter.toNat]
      | none =>
        if octet < 0x20 ∨ 0x7F ≤ octet then digitsIn 8 3 octet.toNat
        else String.ofList [Char.ofNat octet.toNat]
  | .signed =>
    let range := 256 ^ format.size
    toString (if 2 * value < range then (value : Int) else (value : Int) - range)
  | .unsigned => toString value
  | .octal => digitsIn 8 format.width value
  | .hexadecimal => digitsIn 16 format.width value

/-- What a dump looks like. -/
structure Dump where
  /-- The formats of each row. -/
  formats : List DumpFormat
  /-- The number of octets of a row. -/
  rowSize : Nat
  /-- The base of the numbers before rows, and how many digits they have; none if there are none. -/
  addresses : Option (Nat × Nat)
  /-- Whether rows that are the same as the one before are shown too. -/
  showsAll : Bool
  /-- Whether the first octet of a number is its highest one. -/
  highFirst : Bool

/-- The number before a row. -/
def Dump.address (dump : Dump) (place : Nat) : String :=
  match dump.addresses with
  | some (base, width) => digitsIn base width place
  | none => ""

/-- The width that a row has in the widest of its formats. -/
def Dump.width (dump : Dump) : Nat :=
  (dump.formats.map fun format => (format.width + 1) * (dump.rowSize / format.size)).foldl max 0

/-- A row in a format. -/
def Dump.rowIn (dump : Dump) (format : DumpFormat) (row : Octets) : String :=
  let fields := dump.rowSize / format.size
  let pad := dump.width - (format.width + 1) * fields
  let full := row ++ List.replicate (dump.rowSize - row.length) 0
  let shown := (row.length + format.size - 1) / format.size
  let items := (List.range shown).map fun i =>
    let octets := (full.drop (i * format.size)).take format.size
    let octets := if dump.highFirst then octets.reverse else octets
    let room := pad * (fields - i) / fields - pad * (fields - i - 1) / fields
    " " ++ padded (format.width + room) (format.item octets)
  let text :=
    if format.showsText then
      String.ofList (List.replicate ((fields - shown) * (format.width + 1)) ' ') ++ "  >" ++
        String.ofList (row.map fun octet =>
          if octet < 0x20 ∨ 0x7F ≤ octet then '.' else Char.ofNat octet.toNat) ++ "<"
    else ""
  String.join items ++ text

/-- A row in all formats, one under the other. -/
def Dump.row (dump : Dump) (place : Nat) (row : Octets) : String :=
  let start := dump.address place
  String.join (dump.formats.zipIdx.map fun (format, i) =>
    (if i = 0 then start else String.ofList (List.replicate start.length ' ')) ++
      dump.rowIn format row ++ "\n")

/-- All rows. Of those that are the same as the one before, a star stands for all. -/
def Dump.rows (dump : Dump) : (fuel : Nat) → (place : Nat) → (before : Option Octets) →
    (starred : Bool) → Octets → List String
  | 0, _, _, _, _ => []
  | _, place, _, _, [] => if dump.addresses.isSome then [dump.address place ++ "\n"] else []
  | fuel + 1, place, before, starred, octets =>
    let row := octets.take dump.rowSize
    let rest := octets.drop dump.rowSize
    let isFull := row.length = dump.rowSize
    if !dump.showsAll ∧ before = some row ∧ isFull then
      (if starred then [] else ["*\n"]) ++
        dump.rows fuel (place + row.length) before true rest
    else
      dump.row place row :: dump.rows fuel (place + row.length) (some row) false rest

/-! ## Options -/

/-- Reads the formats of a word. -/
def readDumpFormats (word : String) : (fuel : Nat) → List Char → Except String (List DumpFormat)
  | 0, _ => .ok []
  | _, [] => .ok []
  | fuel + 1, c :: rest => do
    let numeric (kind : DumpKind) : Except String (DumpFormat × List Char) :=
      let sized (size : Nat) (rest : List Char) : Except String (DumpFormat × List Char) :=
        if [1, 2, 4, 8].contains size then .ok (⟨kind, size, false⟩, rest)
        else
          .error ("invalid type string " ++ quotedArgument word ++
            ";\nthis system doesn't provide a " ++
            toString size ++ "-byte integral type")
      match rest with
      | 'C' :: rest => sized 1 rest
      | 'S' :: rest => sized 2 rest
      | 'I' :: rest => sized 4 rest
      | 'L' :: rest => sized 8 rest
      | rest =>
        let digits := rest.takeWhile isDigit
        sized (if digits.isEmpty then 4 else decimal digits) (rest.drop digits.length)
    let (format, rest) ←
      match c with
      | 'a' => .ok (⟨.names, 1, false⟩, rest)
      | 'c' => .ok (⟨.characters, 1, false⟩, rest)
      | 'd' => numeric .signed
      | 'u' => numeric .unsigned
      | 'o' => numeric .octal
      | 'x' => numeric .hexadecimal
      | c => .error ("invalid character '" ++ String.ofList [c] ++ "' in type string " ++
          quotedArgument word)
    let (format, rest) :=
      match rest with
      | 'z' :: rest => ({ format with showsText := true }, rest)
      | rest => (format, rest)
    return format :: (← readDumpFormats word fuel rest)

/-- The format that a letter stands for. -/
def dumpFormat? (letter : Char) : Option DumpFormat :=
  match letter with
  | 'a' => some ⟨.names, 1, false⟩
  | 'b' => some ⟨.octal, 1, false⟩
  | 'c' => some ⟨.characters, 1, false⟩
  | 'd' => some ⟨.unsigned, 2, false⟩
  | 'i' => some ⟨.signed, 4, false⟩
  | 'l' => some ⟨.signed, 8, false⟩
  | 'o' => some ⟨.octal, 2, false⟩
  | 's' => some ⟨.signed, 2, false⟩
  | 'x' => some ⟨.hexadecimal, 2, false⟩
  | _ => none

/-- The formats of a command line, in the order of its options. -/
def dumpFormatsOf (line : CommandLine) : Except String (List DumpFormat) := do
  let words ← (line.allValues 't').mapM fun word =>
    readDumpFormats word (word.length + 1) word.toList
  let (formats, _) := line.letters.foldl
    (fun ((formats, words) : List DumpFormat × List (List DumpFormat)) letter =>
      if letter = 't' then (formats ++ words.headD [], words.tail)
      else (formats ++ (dumpFormat? letter).toList, words))
    (([] : List DumpFormat), words)
  return if formats.isEmpty then [⟨.octal, 2, false⟩] else formats

/-- Shows octets as numbers and characters. -/
def od : Utility := fun task =>
  let rules : OptionRules :=
    { flags := "abcdilosvxE", takers := "ANjtS", optional := "w"
      names := [("address-radix", 'A'), ("skip-bytes", 'j'), ("read-bytes", 'N'), ("format", 't'),
        ("output-duplicates", 'v'), ("width", 'w'), ("endian", 'E')] }
  let highFirst := task.arguments.contains "--endian=big"
  let task := { task with
    arguments := task.arguments.filter fun word => !word.startsWith "--endian=" }
  task.withRules rules fun line =>
    let addresses : Except String (Option (Nat × Nat)) :=
      match line.value? 'A' with
      | none => .ok (some (8, 7))
      | some "o" => .ok (some (8, 7))
      | some "d" => .ok (some (10, 7))
      | some "x" => .ok (some (16, 6))
      | some "n" => .ok none
      | some word =>
        .error ("invalid output address radix '" ++ word ++
          "'; it must be one character from [doxn]")
    let count (letter : Char) : Except String (Option Nat) :=
      match line.value? letter with
      | none => .ok none
      | some word =>
        match sizeIn? word.toList with
        | some n => .ok (some n)
        | none => .error ("invalid -" ++ String.ofList [letter] ++ " argument " ++
            quotedArgument word)
    match addresses, count 'j', count 'N', dumpFormatsOf line with
    | .error message, _, _, _ => task.fails message
    | _, .error message, _, _ => task.fails message
    | _, _, .error message, _ => task.fails message
    | _, _, _, .error message => task.fails message
    | .ok addresses, .ok skip, .ok limit, .ok formats =>
      let multiple := (formats.map DumpFormat.size).foldl max 1
      let rowSize := match line.value? 'w' with
        | some word => max 1 (decimal word.toList)
        | none => if line.has 'w' then 32 else 16
      let rowSize := if rowSize % multiple = 0 then rowSize else multiple
      let report := task.overInputs line.operands fun _ octets report => report.adds octets
      let octets := report.output
      let start := skip.getD 0
      if octets.length < start ∧ report.status = 0 then
        task.fails "cannot skip past end of combined input"
      else
        let octets := octets.drop start
        let octets := (limit.map octets.take).getD octets
        let dump : Dump :=
          { formats := formats, rowSize := rowSize, addresses := addresses
            showsAll := line.has 'v', highFirst := highFirst }
        let isThere (word : String) : Bool :=
          match task.octetsOf word with
          | .ok _ => true
          | .error error => error == .isDirectory
        if !line.operands.isEmpty ∧ !line.operands.any isThere then report
        else report.withOutput (Utf8.ofString
          (String.join (dump.rows (octets.length + 2) start none false octets)))

end HistoryExpansion.Shell.Utility
