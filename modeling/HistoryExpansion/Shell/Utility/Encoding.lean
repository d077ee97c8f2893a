import HistoryExpansion.Shell.Utility.Order
import HistoryExpansion.Text.Base64
import HistoryExpansion.Text.Digest

/-!
# Digests and encodings of files

Programs that print the digests of files, or check them against a list, and programs that write
octets as digits that can be sent as text.
-/

namespace HistoryExpansion.Shell.Utility

/-! ## Digests -/

/-- A kind of digest. -/
structure DigestKind where
  /-- Its name. -/
  title : String
  /-- The number of its octets. -/
  size : Nat
  /-- The digest. -/
  digest : Octets → Octets

/-- The kinds of digests by the names of the programs that print them. -/
def digestKinds : List (String × DigestKind) :=
  [("md5sum", ⟨"MD5", 16, Digest.md5⟩), ("sha1sum", ⟨"SHA1", 20, Digest.sha1⟩),
    ("sha224sum", ⟨"SHA224", 28, Digest.sha224⟩), ("sha256sum", ⟨"SHA256", 32, Digest.sha256⟩),
    ("sha384sum", ⟨"SHA384", 48, Digest.sha384⟩), ("sha512sum", ⟨"SHA512", 64, Digest.sha512⟩)]

/-- A name with what cannot stand in a line written behind a backslash. -/
def escapedName (name : String) : String :=
  String.join (name.toList.map fun c =>
    if c = '\\' then "\\\\" else if c = '\n' then "\\n" else if c = '\r' then "\\r" else c.toString)

/-- The line that tells a digest. -/
def digestLine (kind : DigestKind) (tagged : Bool) (mark ending : String) (name : String)
    (digest : Octets) : String :=
  let shown := if ending = "\n" then escapedName name else name
  let lead := if shown = name then "" else "\\"
  let text := Digest.hexadecimal digest
  if tagged then lead ++ kind.title ++ " (" ++ shown ++ ") = " ++ text ++ ending
  else lead ++ text ++ " " ++ mark ++ shown ++ ending

/-- The digest in base sixteen and the name that a line tells, and whether a single blank stands
between them, which all lines of a list must agree on. -/
def readDigestLine (kind : DigestKind) (single : Option Bool) (line : List Char) :
    Option (String × String × Option Bool) :=
  let isDigit (c : Char) : Bool := c.isDigit || ('a' ≤ c && c ≤ 'f') || ('A' ≤ c && c ≤ 'F')
  let found (digits name : List Char) (single : Option Bool) :
      Option (String × String × Option Bool) :=
    if digits.length = 2 * kind.size ∧ !name.isEmpty then
      some (String.ofList (digits.map Char.toLower), String.ofList name, single)
    else none
  match Text.after? (kind.title ++ " (").toList line with
  | some rest =>
    let digits := (rest.reverse.takeWhile isDigit).reverse
    let name := rest.take (rest.length - digits.length)
    (Text.before? ") = ".toList name).bind fun name => found digits name single
  | none =>
    let digits := line.takeWhile isDigit
    match line.drop digits.length with
    | ' ' :: mark :: name =>
      let isMark := (mark = ' ' ∨ mark = '*') ∧ !name.isEmpty
      if !isMark ∧ single = some false then none
      else if !isMark ∨ single = some true then found digits (mark :: name) (some true)
      else found digits name (some false)
    | _ => none

/-- What a check of a list found. -/
structure DigestCheck where
  /-- What was written. -/
  report : Report
  /-- The number of lines that tell a digest. -/
  lines : Nat := 0
  /-- The number of other lines. -/
  bad : Nat := 0
  /-- The number of files that could not be read. -/
  unread : Nat := 0
  /-- The number of digests that are not right. -/
  wrong : Nat := 0
  /-- The number of digests that are right. -/
  right : Nat := 0
  /-- Whether a single blank stands between digests and names, if that is known. -/
  single : Option Bool := none

/-- A number of things that something is said about. -/
def counted (count : Nat) (one many : String) : String :=
  toString count ++ " " ++ (if count = 1 then one else many)

/-- Checks the digests of a list. -/
def checkDigests (task : Task) (line : CommandLine) (kind : DigestKind) (word : String)
    (octets : Octets) (report : Report) : Report :=
  let quiet := line.hasAny "QS"
  let silent := line.has 'S'
  let shown := if isInputName word then "'standard input'" else quoted word
  let rows := (linesOf octets).zipIdx
  let check := rows.foldl
    (fun (check : DigestCheck) ((row, i) : Octets × Nat) =>
      match readDigestLine kind check.single (Utf8.decodeLossy row) with
      | none =>
        let check := { check with bad := check.bad + 1 }
        if line.has 'w' then
          { check with report := check.report.warns (task.name ++ ": " ++ shown ++ ": " ++
            toString (i + 1) ++ ": improperly formatted " ++ kind.title ++ " checksum line") }
        else check
      | some (digest, name, single) =>
        let check := { check with lines := check.lines + 1, single := single }
        match task.octetsOf name with
        | .error error =>
          if line.has 'I' ∧ error = .notFound then check
          else
            let report := check.report.warns (task.name ++ ": " ++ plainWording name error)
            { check with
              unread := check.unread + 1
              report := if silent then report
                else Report.prints report (name ++ ": FAILED open or read\n") }
        | .ok content =>
          if Digest.hexadecimal (kind.digest content) = digest then
            { check with
              right := check.right + 1
              report := if quiet then check.report
                else Report.prints check.report (name ++ ": OK\n") }
          else
            { check with
              wrong := check.wrong + 1
              report := if silent then check.report
                else Report.prints check.report (name ++ ": FAILED\n") })
    { report := report }
  let warning (count : Nat) (one many : String) (report : Report) : Report :=
    if count = 0 ∨ silent then report
    else report.warns (task.name ++ ": WARNING: " ++ counted count one many)
  if check.lines = 0 then
    check.report.complains
      (task.name ++ ": " ++ shown ++ ": no properly formatted checksum lines found")
  else
    let told := warning check.wrong "computed checksum did NOT match"
      "computed checksums did NOT match"
      (warning check.unread "listed file could not be read" "listed files could not be read"
        (warning check.bad "line is improperly formatted" "lines are improperly formatted"
          check.report))
    let noneRead := line.has 'I' && check.right + check.wrong = 0
    let told := if noneRead ∧ !silent then
        told.warns (task.name ++ ": " ++ shown ++ ": no file was verified") else told
    let fails := check.wrong > 0 || check.unread > 0 || noneRead || (line.has 'R' && check.bad > 0)
    if fails then { told with status := 1 } else told

/-- Prints digests of a kind, or checks lists of them. -/
def printDigests (task : Task) (line : CommandLine) (kind : DigestKind) (tagged : Bool) : Report :=
  let onlyChecking : List (Char × String) :=
    [('S', "status"), ('Q', "quiet"), ('w', "warn"), ('I', "ignore-missing"), ('R', "strict")]
  match onlyChecking.find? fun (letter, _) => line.has letter && !line.has 'c' with
  | some (_, name) =>
    task.misused ("the --" ++ name ++ " option is meaningful only when verifying checksums")
  | none =>
    if line.has 'c' then
      task.overInputs line.operands fun word octets report =>
        checkDigests task line kind word octets report
    else
      let mark := if line.has 'b' then "*" else " "
      let ending := if line.has 'z' then "\x00" else "\n"
      task.overInputs line.operands fun word octets report =>
        Report.prints report (digestLine kind tagged mark ending word (kind.digest octets))

/-- The options of programs that print digests. -/
def digestRules : OptionRules where
  flags := "bctwz"
  named := "SQIRg"
  names := [("binary", 'b'), ("check", 'c'), ("text", 't'), ("warn", 'w'), ("zero", 'z'),
    ("status", 'S'), ("quiet", 'Q'), ("ignore-missing", 'I'), ("strict", 'R'), ("tag", 'g')]

/-- Prints digests of the kind that its name says, or checks lists of them. -/
def digests : Utility := fun task =>
  task.withRules digestRules fun line =>
    let name := (task.name.toList.reverse.takeWhile (· ≠ '/')).reverse
    match digestKinds.lookup (String.ofList name) with
    | some kind => printDigests task line kind (line.has 'g')
    | none => task.idle

/-- A sum of a file in the older two ways: with the room that the file takes. -/
def sumLine (folded : Bool) (octets : Octets) (name : Option String) : String :=
  let text :=
    if folded then
      toString (Digest.foldedSum octets) ++ " " ++ toString ((octets.length + 511) / 512)
    else
      let digits := toString (Digest.turnedSum octets)
      String.ofList (List.replicate (5 - digits.length) '0') ++ digits ++ " " ++
        (let count := toString ((octets.length + 1023) / 1024)
        String.ofList (List.replicate (5 - count.length) ' ') ++ count)
  text ++ (name.map (" " ++ ·)).getD "" ++ "\n"

/-- Prints sums of files. -/
def sum : Utility := fun task =>
  let rules : OptionRules := { flags := "rs", names := [("sysv", 's')] }
  task.withRules rules fun line =>
    task.overInputs line.operands fun word octets report =>
      Report.prints report (sumLine (line.lastOf "rs" == some 's') octets
        (if line.operands.isEmpty then none else some word))

/-- The algorithms that can be chosen for a check of files. -/
def checkNames : List String :=
  ["bsd", "sysv", "crc", "md5", "sha1", "sha224", "sha256", "sha384", "sha512", "blake2b", "sm3"]

/-- Prints cyclic checks of files, or digests. -/
def cksum : Utility := fun task =>
  let rules : OptionRules :=
    { flags := "cwz", takers := "a", named := "SQIRgu"
      names := digestRules.names ++ [("algorithm", 'a'), ("untagged", 'u')] }
  task.withRules rules fun line =>
    let name (word : String) : Option String := if line.operands.isEmpty then none else some word
    let summed (text : Octets → Option String → String) : Report :=
      task.overInputs line.operands fun word octets report =>
        Report.prints report (text octets (name word))
    match (line.value? 'a').getD "crc" with
    | "crc" => summed fun octets name =>
        toString (Digest.cyclicCheck octets) ++ " " ++ toString octets.length ++
          (name.map (" " ++ ·)).getD "" ++ "\n"
    | "bsd" => summed (sumLine false)
    | "sysv" => summed (sumLine true)
    | word =>
      match digestKinds.lookup (word ++ "sum") with
      | some kind => printDigests task line kind (!line.has 'u')
      | none =>
        (task.fails ("invalid argument " ++ quotedArgument word ++
            " for '--algorithm'\nValid arguments are:\n" ++
            String.intercalate "\n" (checkNames.map fun name => "  - '" ++ name ++ "'"))).warns
          task.advice

/-! ## Encodings -/

/-- An encoding of octets as digits, each of which stands for some bits. -/
structure DigitCode where
  /-- The digits by their values. -/
  digits : List Char
  /-- The number of bits of a digit. -/
  bits : Nat
  /-- The number of digits of a group. -/
  group : Nat

/-- The encoding with sixty-four digits. -/
def code64 : DigitCode := ⟨Base64.digits, 6, 4⟩

/-- The encoding with thirty-two digits. -/
def code32 : DigitCode := ⟨"ABCDEFGHIJKLMNOPQRSTUVWXYZ234567".toList, 5, 8⟩

/-- The octets of a group. -/
def DigitCode.octets (code : DigitCode) : Nat :=
  code.bits * code.group / 8

/-- The digits of the octets of one group, which may be fewer. -/
def DigitCode.encodeGroup (code : DigitCode) (octets : Octets) : List Char :=
  let value := Digest.numberOfOctets (octets ++ List.replicate (code.octets - octets.length) 0)
  let used := (8 * octets.length + code.bits - 1) / code.bits
  (List.range code.group).map fun i =>
    if i < used then
      code.digits.getD (value / 2 ^ (code.bits * (code.group - 1 - i)) % 2 ^ code.bits) '='
    else '='

/-- The digits of octets. -/
def DigitCode.encode (code : DigitCode) : (fuel : Nat) → Octets → List Char
  | 0, _ => []
  | _, [] => []
  | fuel + 1, octets =>
    code.encodeGroup (octets.take code.octets) ++ code.encode fuel (octets.drop code.octets)

/-- The octets of one group of digits, and whether the group is in order. -/
def DigitCode.decodeGroup (code : DigitCode) (group : List Char) : Octets × Bool :=
  let valid := group.takeWhile code.digits.contains
  let value := (valid ++ List.replicate (code.group - valid.length) 'A').foldl
    (fun value c => value * 2 ^ code.bits + code.digits.idxOf c) 0
  let count := valid.length * code.bits / 8
  let octets := (Digest.octetsOfNumber code.octets value).take count
  let padding := group.drop valid.length
  let isWhole := valid.length = code.group ||
    (group.length = code.group && padding.all (· == '=') && count > 0 &&
      (8 * count + code.bits - 1) / code.bits = valid.length)
  (octets, isWhole)

/-- The octets that digits write, up to the first group that is not in order. -/
def DigitCode.decode (code : DigitCode) : (fuel : Nat) → List Char → Octets × Bool
  | 0, _ => ([], false)
  | _, [] => ([], true)
  | fuel + 1, digits =>
    match code.decodeGroup (digits.take code.group) with
    | (octets, false) => (octets, false)
    | (octets, true) =>
      let (rest, isWhole) := code.decode fuel (digits.drop code.group)
      (octets ++ rest, isWhole)

/-- Digits in lines of a width. -/
def wrapped (width : Nat) : (fuel : Nat) → List Char → List Char
  | 0, _ => []
  | _, [] => []
  | fuel + 1, digits => digits.take width ++ '\n' :: wrapped width fuel (digits.drop width)

/-- Writes its input in an encoding, or reads what is so written. -/
def encoding (code : DigitCode) : Utility := fun task =>
  let rules : OptionRules :=
    { flags := "di", takers := "w"
      names := [("decode", 'd'), ("ignore-garbage", 'i'), ("wrap", 'w')] }
  task.withRules rules fun line =>
    let word := (line.value? 'w').getD "76"
    match line.operands with
    | _ :: extra :: _ => task.misused ("extra operand " ++ quotedArgument extra)
    | operands =>
      if word.isEmpty ∨ !word.toList.all isDigit then
        task.fails ("invalid wrap size: " ++ quotedArgument word)
      else
        let name := operands.headD "-"
        match task.octetsOf name with
        | .error .isDirectory => task.fails ("read error: " ++ DiskError.isDirectory.reason)
        | .error error => task.fails (plainWording name error)
        | .ok octets =>
          let idle := if isInputName name then { task.idle with unread := [] } else task.idle
          if line.has 'd' then
            let digits := (octets.filter (· ≠ 0x0A)).map fun octet => Char.ofNat octet.toNat
            let digits := if line.has 'i' then
                digits.filter fun c => code.digits.contains c || c = '=' else digits
            match code.decode (digits.length + 1) digits with
            | (found, true) => idle.adds found
            | (found, false) =>
              (idle.adds found).complains (task.name ++ ": invalid input")
          else
            let width := decimal word.toList
            let digits := code.encode (octets.length + 1) octets
            let text := if width = 0 then digits else wrapped width (digits.length + 1) digits
            Report.prints idle (String.ofList text)

/-- Writes octets with sixty-four digits. -/
def base64 : Utility := encoding code64

/-- Writes octets with thirty-two digits. -/
def base32 : Utility := encoding code32

end HistoryExpansion.Shell.Utility
