import HistoryExpansion.Shell.Utility.Copies

/-!
# Copying by blocks, and installing

A program that copies a stretch of a file, block by block, and one that copies files with
permissions of their own.
-/

namespace HistoryExpansion.Shell.Utility

/-! ## Blocks -/

/-- What is copied, in blocks. -/
structure BlockCopy where
  /-- Where it comes from; the input if nothing is said. -/
  source : Option String := none
  /-- Where it goes; the output if nothing is said. -/
  target : Option String := none
  /-- The number of octets of a block that is read. -/
  readSize : Nat := 512
  /-- The number of octets of a block that is written. -/
  writeSize : Nat := 512
  /-- The number of blocks; all if nothing is said. -/
  count : Option Nat := none
  /-- The number of blocks that are left out before. -/
  skip : Nat := 0
  /-- The number of blocks of the target that are kept before. -/
  seek : Nat := 0
  /-- The changes that are made on the way. -/
  changes : List String := []
  /-- How much is told. -/
  telling : String := ""
  /-- The units of numbers of blocks that are octets. -/
  flags : List String := []

/-- What is wrong with a word. -/
inductive BlockFault where
  /-- The word is not known. -/
  | unknown (word : String)
  /-- A number is not one. -/
  | badNumber (text : String)
  /-- A name is not known. -/
  | badName (kind name : String)

/-- Reads one word. -/
def readBlockWord (copy : BlockCopy) (word : String) : Except BlockFault BlockCopy :=
  let name := String.ofList (word.toList.takeWhile (· ≠ '='))
  let value := String.ofList (word.toList.drop (name.length + 1))
  let number : Except BlockFault Nat :=
    let parts := Text.splitAtEach 'x' value.toList
    let factors := parts.map sizeIn?
    if factors.all Option.isSome then .ok ((factors.filterMap fun n => n).foldl (· * ·) 1)
    else .error (.badNumber value)
  let names := (Text.splitAtEach ',' value.toList).map String.ofList
  let checked (kind : String) (known : List String) : Except BlockFault (List String) :=
    match names.find? fun name => !known.contains name with
    | some name => .error (.badName kind name)
    | none => .ok names
  if !word.toList.contains '=' then .error (.unknown word)
  else
    match name with
    | "if" => .ok { copy with source := some value }
    | "of" => .ok { copy with target := some value }
    | "bs" => number.map fun n => { copy with readSize := n, writeSize := n }
    | "ibs" => number.map fun n => { copy with readSize := n }
    | "obs" => number.map fun n => { copy with writeSize := n }
    | "cbs" => number.map fun _ => copy
    | "count" => number.map fun n => { copy with count := some n }
    | "skip" => number.map fun n => { copy with skip := n }
    | "iseek" => number.map fun n => { copy with skip := n }
    | "seek" => number.map fun n => { copy with seek := n }
    | "oseek" => number.map fun n => { copy with seek := n }
    | "status" =>
      (checked "status level" ["none", "noxfer", "progress"]).map fun _ =>
        { copy with telling := value }
    | "conv" =>
      (checked "conversion" ["ucase", "lcase", "notrunc", "swab", "sync", "noerror", "excl",
        "nocreat", "fsync", "fdatasync", "ascii", "ebcdic", "ibm", "block", "unblock",
          "sparse"]).map
          fun names => { copy with changes := copy.changes ++ names }
    | "iflag" => .ok { copy with flags := copy.flags ++ names }
    | "oflag" => .ok { copy with flags := copy.flags ++ names }
    | _ => .error (.unknown word)

/-- Octets two by two, each pair turned round. -/
def swappedPairs : Octets → Octets
  | a :: b :: rest => b :: a :: swappedPairs rest
  | rest => rest

/-- Octets with the changes that are asked for. -/
def BlockCopy.changed (copy : BlockCopy) (octets : Octets) : Octets :=
  let isUpper (octet : UInt8) : Bool := 0x41 ≤ octet && octet ≤ 0x5A
  let isLower (octet : UInt8) : Bool := 0x61 ≤ octet && octet ≤ 0x7A
  let octets := if copy.changes.contains "ucase" then
      octets.map fun octet => if isLower octet then octet - 0x20 else octet
    else if copy.changes.contains "lcase" then
      octets.map fun octet => if isUpper octet then octet + 0x20 else octet
    else octets
  let octets := if copy.changes.contains "swab" then swappedPairs octets else octets
  if copy.changes.contains "sync" then
    octets ++ List.replicate ((copy.readSize - octets.length % copy.readSize) % copy.readSize) 0
  else octets

/-- How many whole blocks octets take, and whether there is a last one that is not whole. -/
def blockCount (size length : Nat) : String :=
  toString (length / size) ++ "+" ++ (if length % size = 0 then "0" else "1")

/-- Copies a stretch of a file. -/
def dd : Utility := fun task =>
  let words := task.arguments.filter (· ≠ "--")
  match words.foldlM readBlockWord {} with
  | .error (.unknown word) => task.misused ("unrecognized operand " ++ quotedArgument word)
  | .error (.badNumber text) => task.fails ("invalid number: " ++ quotedArgument text)
  | .error (.badName kind name) => task.misused ("invalid " ++ kind ++ ": " ++ quotedArgument name)
  | .ok copy =>
    if copy.readSize = 0 ∨ copy.writeSize = 0 then task.fails "invalid number: '0'"
    else
      let name := copy.source.getD "-"
      match if copy.source.isSome then task.disk.read name else .ok task.input with
      | .error .isDirectory =>
        task.fails ("error reading " ++ quotedAlways name ++ ": " ++ DiskError.isDirectory.reason)
      | .error error => task.fails ("failed to open " ++ quotedAlways name ++ ": " ++ error.reason)
      | .ok octets =>
        let inOctets := copy.flags.contains "count_bytes"
        let start := if copy.flags.contains "skip_bytes" then copy.skip
          else copy.skip * copy.readSize
        let rest := octets.drop start
        let taken := match copy.count with
          | some count => rest.take (if inOctets then count else count * copy.readSize)
          | none => rest
        let written := copy.changed taken
        let idle := if copy.source.isSome then task.idle
          else { task.idle with unread := rest.drop taken.length }
        let report := match copy.target with
          | none => idle.adds written
          | some path =>
            let old := ((task.disk.read path).toOption).getD []
            let lead := if copy.flags.contains "seek_bytes" then copy.seek
              else copy.seek * copy.writeSize
            let kept := old.take lead ++ List.replicate (lead - old.length) 0
            let behind := if copy.changes.contains "notrunc" then
                old.drop (lead + written.length) else []
            let base := if copy.flags.contains "append" then old else kept
            idle.attempts (task.name ++ ": failed to open " ++ quotedAlways path)
              (Disk.write path (base ++ written ++ behind))
        if copy.telling = "none" ∨ report.status ≠ 0 then report
        else
          let report :=
            (report.warns (blockCount copy.readSize taken.length ++ " records in")).warns
            (blockCount copy.writeSize written.length ++ " records out")
          if copy.telling = "noxfer" then report
          else
            report.warns (toString written.length ++ " byte" ++
              (if written.length = 1 then "" else "s") ++ " copied, 0.001 s, " ++
              toString written.length ++ ".0 kB/s")

/-! ## Installing -/

/-- Copies files with permissions, or makes directories. -/
def install : Utility := fun task =>
  let rules : OptionRules :=
    { flags := "bcCdDpsTv", takers := "gmotS"
      names := [("directory", 'd'), ("mode", 'm'), ("owner", 'o'), ("group", 'g'),
        ("target-directory", 't'), ("no-target-directory", 'T'), ("verbose", 'v'),
        ("compare", 'C'), ("preserve-timestamps", 'p')] }
  task.withRules rules fun line =>
    let change := PermissionChange.read? ((line.value? 'm').getD "755")
    match change with
    | none => task.fails ("invalid mode " ++ quotedArgument ((line.value? 'm').getD ""))
    | some change =>
      let setMode (path : String) : Disk.Change := fun disk =>
        Disk.changeMode path (fun entry _ => change.apply (entry == .directory) 0 0) disk
      if line.has 'd' then
        forEachOperand task line "missing file operand" fun report path =>
          report.attempts (task.name ++ ": cannot create directory " ++
            quotedAlways path) fun disk =>
            match Disk.makeDirectories path disk with
            | (.ok (), disk) => setMode path disk
            | failed => failed
      else
        let task := if line.has 'D' then
            { task with disk :=
                match line.operands.getLast?.bind Path.parent?, line.value? 't' with
                | _, some target => (Disk.makeDirectories target task.disk).2
                | some parent, none => (Disk.makeDirectories parent task.disk).2
                | none, none => task.disk }
          else task
        transferring task line fun report source target =>
          match report.disk.find source with
          | .error error =>
            report.complains (task.name ++ ": cannot stat " ++ quotedAlways source ++ ": " ++
              error.reason)
          | .ok .directory =>
            report.complains (task.name ++ ": omitting directory " ++ quotedAlways source)
          | .ok entry =>
            let after := report.attempts
              (task.name ++ ": cannot create regular file " ++ quotedAlways target) fun disk =>
                match Disk.copyFile entry 0o755 target disk with
                | (.ok (), disk) => setMode target disk
                | failed => failed
            telling line (quotedAlways source ++ " -> " ++ quotedAlways target) after

end HistoryExpansion.Shell.Utility
