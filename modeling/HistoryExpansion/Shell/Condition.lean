import HistoryExpansion.Disk.Basic
import HistoryExpansion.Shell.Arithmetic

/-!
# Conditions

The tests of texts, numbers and files. A condition is given as words; it holds, does not hold, or is
no condition at all.
-/

namespace HistoryExpansion.Shell

/-- The number that a word of a condition is. -/
def conditionNumber (word : String) : Except Complaint Int64 :=
  if word = "" then .error "Illegal number: " else numberOf word

/-- Whether something stands at a path that passes a check. -/
def standsAt (disk : Disk) (path : String) (check : Entry → Bool) : Bool :=
  match disk.find path with
  | .ok entry => check entry
  | .error _ => false

/-- Whether an entry is a plain file. -/
def Entry.isFile (entry : Entry) : Bool :=
  match entry with
  | .file _ => true
  | .program _ => true
  | _ => false

/-- Whether a path names a link. -/
def isLink (disk : Disk) (path : String) : Bool :=
  match disk.findItself path with
  | .ok (.link _) => true
  | _ => false

/-- Whether what a path leads to may be run, or searched if it is a directory. -/
def isRunnable (disk : Disk) (path : String) : Bool :=
  match disk.locate path with
  | .ok place => (disk.entry? place).isSome && disk.mode place &&& 0o111 != 0
  | .error _ => false

/-- Whether one path leads to something that was changed later than what another leads to, or to
something while the other leads to nothing. -/
def isNewer (disk : Disk) (left right : String) : Bool :=
  match disk.locate left, disk.locate right with
  | .ok a, .ok b =>
    if (disk.entry? a).isNone then false
    else if (disk.entry? b).isNone then true
    else disk.time b < disk.time a
  | .ok a, .error _ => (disk.entry? a).isSome
  | .error _, _ => false

/-- Whether two paths lead to the same thing. -/
def isSame (disk : Disk) (left right : String) : Bool :=
  match disk.locate left, disk.locate right with
  | .ok a, .ok b => a == b && (disk.entry? a).isSome
  | _, _ => false

/-- The tests of one word. -/
def unaryTest? (disk : Disk) (operator word : String) : Option Bool :=
  match operator with
  | "-n" => some (word ≠ "")
  | "-z" => some (word = "")
  | "-e" => some (standsAt disk word fun _ => true)
  | "-f" => some (standsAt disk word Entry.isFile)
  | "-d" => some (standsAt disk word (· == .directory))
  | "-r" => some (standsAt disk word fun _ => true)
  | "-w" => some (standsAt disk word fun _ => true)
  | "-x" =>
    some (isRunnable disk word)
  | "-s" => some (standsAt disk word fun entry => ((entry.content?).map (!·.isEmpty)).getD true)
  | "-c" =>
    some (standsAt disk word fun
      | .device _ => true
      | _ => false)
  | "-b" => some false
  | "-g" => some false
  | "-h" => some (isLink disk word)
  | "-k" => some false
  | "-L" => some (isLink disk word)
  | "-p" => some false
  | "-S" => some false
  | "-t" => some false
  | "-u" => some false
  | "-O" => some (standsAt disk word fun _ => true)
  | "-G" => some (standsAt disk word fun _ => true)
  | _ => none

/-- The tests of two words. -/
def binaryTest? (disk : Disk) (operator left right : String) : Option (Except Complaint Bool) :=
  let numbers (test : Int64 → Int64 → Bool) : Option (Except Complaint Bool) :=
    some (do return test (← conditionNumber left) (← conditionNumber right))
  match operator with
  | "=" => some (.ok (left = right))
  | "!=" => some (.ok (left ≠ right))
  | "<" => some (.ok (left < right))
  | ">" => some (.ok (right < left))
  | "-eq" => numbers (· == ·)
  | "-ne" => numbers (· != ·)
  | "-lt" => numbers (· < ·)
  | "-le" => numbers (· ≤ ·)
  | "-gt" => numbers (· > ·)
  | "-ge" => numbers (· ≥ ·)
  | "-nt" => some (.ok (isNewer disk left right))
  | "-ot" => some (.ok (isNewer disk right left))
  | "-ef" => some (.ok (isSame disk left right))
  | _ => none

/-- Whether a word is a test of two words. -/
def isBinaryTest (word : String) : Bool :=
  ["=", "!=", "<", ">", "-eq", "-ne", "-lt", "-le", "-gt", "-ge", "-nt", "-ot", "-ef"].contains word

mutual

/-- Reads conditions of which any must hold. -/
def anyOf (disk : Disk) : (fuel : Nat) → List String → Except Complaint (Bool × List String)
  | 0, _ => .error "argument expected"
  | fuel + 1, words => do
    let (left, rest) ← allOf disk fuel words
    match rest with
    | "-o" :: rest =>
      let (right, rest) ← anyOf disk fuel rest
      return (left || right, rest)
    | rest => return (left, rest)

/-- Reads conditions all of which must hold. -/
def allOf (disk : Disk) : (fuel : Nat) → List String → Except Complaint (Bool × List String)
  | 0, _ => .error "argument expected"
  | fuel + 1, words => do
    let (left, rest) ← oneOf disk fuel words
    match rest with
    | "-a" :: rest =>
      let (right, rest) ← allOf disk fuel rest
      return (left && right, rest)
    | rest => return (left, rest)

/-- Reads one condition. -/
def oneOf (disk : Disk) : (fuel : Nat) → List String → Except Complaint (Bool × List String)
  | 0, _ => .error "argument expected"
  | fuel + 1, words =>
    match words with
    | [] => .ok (false, [])
    | [word] => .ok (word ≠ "", [])
    | left :: operator :: right :: rest =>
      if isBinaryTest operator then
        match binaryTest? disk operator left right with
        | some result => result.map fun holds => (holds, rest)
        | none => .error "unexpected operator"
      else starting disk fuel left (operator :: right :: rest)
    | [first, second] =>
      if isBinaryTest second then .error (second ++ ": argument expected")
      else starting disk fuel first [second]

/-- Reads a condition that starts with a word. -/
def starting (disk : Disk) : (fuel : Nat) → (first : String) → List String →
    Except Complaint (Bool × List String)
  | 0, _, _ => .error "argument expected"
  | fuel + 1, first, rest =>
    if first = "!" then do
      let (holds, rest) ← oneOf disk fuel rest
      return (!holds, rest)
    else if first = "(" then do
      let (holds, rest) ← anyOf disk fuel rest
      match rest with
      | ")" :: rest => return (holds, rest)
      | _ => .error "closing paren expected"
    else
      match rest with
      | word :: behind =>
        match unaryTest? disk first word with
        | some holds => .ok (holds, behind)
        | none => .ok (first ≠ "", rest)
      | [] => .ok (first ≠ "", rest)

end

/-- Whether the condition that words say holds. -/
def condition (disk : Disk) (words : List String) : Except Complaint Bool :=
  match words with
  | [] => .ok false
  | words => do
    let (holds, rest) ← anyOf disk (4 * words.length + 4) words
    match rest with
    | [] => return holds
    | word :: more =>
      let before := (words.take (words.length - (more.length + 1))).getLast?
      .error (before.getD word ++ ": unexpected operator")

/-! ## Conditions by the number of their words -/

/-- How what is wrong with a condition is worded, and what its tests ask for beside the disk. -/
structure ConditionStyle where
  /-- A word is no number. -/
  notNumber : String → String
  /-- The first of two words is no test of the second. -/
  notUnary : (first second : String) → String
  /-- A word stands where a test of two words is expected. -/
  notBinary : String → String
  /-- A word stands behind the condition. -/
  surplus : String → String
  /-- Something is missing behind a word. -/
  missing : String → String
  /-- Whether a variable is set. -/
  isSet : String → Bool := fun _ => false
  /-- Whether an option is set. -/
  isOn : String → Bool := fun _ => false

/-- The number that a word is: blanks, a sign and digits. -/
def plainNumber? (word : String) : Option Int :=
  let chars := (dropSpace (dropSpace word.toList).reverse).reverse
  let digits (text : List Char) : Option Int :=
    if text.isEmpty ∨ !text.all isDigit then none else some (decimal text)
  match chars with
  | '-' :: rest => (digits rest).map (-·)
  | '+' :: rest => digits rest
  | rest => digits rest

namespace ConditionStyle

/-- Tests one word. -/
def unary? (style : ConditionStyle) (disk : Disk) (operator word : String) : Option Bool :=
  match operator with
  | "-v" => some (style.isSet word)
  | "-o" => some (style.isOn word)
  | "-a" => some (standsAt disk word fun _ => true)
  | "-N" => some false
  | operator => unaryTest? disk operator word

/-- Tests two words. -/
def binary? (style : ConditionStyle) (disk : Disk) (operator left right : String) :
    Option (Except Complaint Bool) :=
  if ["-eq", "-ne", "-lt", "-le", "-gt", "-ge"].contains operator then
    match plainNumber? left, plainNumber? right with
    | none, _ => some (.error (style.notNumber left))
    | _, none => some (.error (style.notNumber right))
    | some a, some b =>
      some (.ok (match operator with
        | "-eq" => a == b
        | "-ne" => a != b
        | "-lt" => decide (a < b)
        | "-le" => decide (a ≤ b)
        | "-gt" => decide (b < a)
        | _ => decide (b ≤ a)))
  else if operator = "==" then some (.ok (left = right))
  else binaryTest? disk operator left right

/-- Whether a word is a test of two words. -/
def isBinary (word : String) : Bool :=
  word == "==" || isBinaryTest word

mutual

/-- Reads conditions of which any must hold. -/
def readAny (style : ConditionStyle) (disk : Disk) : (fuel : Nat) → (last : String) →
    List String → Except Complaint (Bool × List String)
  | 0, last, _ => .error (style.missing last)
  | fuel + 1, last, words => do
    let (left, rest) ← readEvery style disk fuel last words
    match rest with
    | "-o" :: rest =>
      let (right, rest) ← readAny style disk fuel "-o" rest
      return (left || right, rest)
    | rest => return (left, rest)

/-- Reads conditions all of which must hold. -/
def readEvery (style : ConditionStyle) (disk : Disk) : (fuel : Nat) → (last : String) →
    List String → Except Complaint (Bool × List String)
  | 0, last, _ => .error (style.missing last)
  | fuel + 1, last, words => do
    let (left, rest) ← readTerm style disk fuel last words
    match rest with
    | "-a" :: rest =>
      let (right, rest) ← readEvery style disk fuel "-a" rest
      return (left && right, rest)
    | rest => return (left, rest)

/-- Reads one condition. -/
def readTerm (style : ConditionStyle) (disk : Disk) : (fuel : Nat) → (last : String) →
    List String → Except Complaint (Bool × List String)
  | 0, last, _ => .error (style.missing last)
  | _, last, [] => .error (style.missing last)
  | fuel + 1, _, word :: rest => do
    if word = "!" then
      let (holds, rest) ← readTerm style disk fuel word rest
      return (!holds, rest)
    if word = "(" then
      let (holds, rest) ← readAny style disk fuel word rest
      match rest with
      | ")" :: rest => return (holds, rest)
      | rest => .error (style.missing (rest.headD ")"))
    else
      match rest with
      | operator :: right :: behind =>
        if isBinary operator then
          match style.binary? disk operator word right with
          | some result => return (← result, behind)
          | none => .error (style.notBinary operator)
        else alone word rest
      | rest => alone word rest
where
  /-- Reads a test of one word, or a word that stands for itself. -/
  alone (word : String) (rest : List String) : Except Complaint (Bool × List String) :=
    match rest with
    | operand :: behind =>
      match style.unary? disk word operand with
      | some holds => .ok (holds, behind)
      | none => .ok (word ≠ "", rest)
    | [] => .ok (word ≠ "", [])

end

/-- Whether the condition that many words say holds. -/
def ofMany (style : ConditionStyle) (disk : Disk) (words : List String) :
    Except Complaint Bool := do
  let (holds, rest) ← readAny style disk (4 * words.length + 4) "" words
  match rest with
  | [] => return holds
  | word :: _ => .error (style.surplus word)

/-- Whether the condition of one or two words holds. -/
def ofFew (style : ConditionStyle) (disk : Disk) (words : List String) : Except Complaint Bool :=
  match words with
  | [] => .ok false
  | [word] => .ok (word ≠ "")
  | ["!", word] => .ok (word = "")
  | first :: second :: _ =>
    match style.unary? disk first second with
    | some holds => .ok holds
    | none => .error (style.notUnary first second)

/-- Whether the condition of three words holds. -/
def ofThree (style : ConditionStyle) (disk : Disk) (left operator right : String) :
    Except Complaint Bool :=
  match style.binary? disk operator left right with
  | some result => result
  | none =>
    if operator = "-a" then .ok (left ≠ "" ∧ right ≠ "")
    else if operator = "-o" then .ok (left ≠ "" ∨ right ≠ "")
    else if left = "!" then (style.ofFew disk [operator, right]).map (!·)
    else if left = "(" ∧ right = ")" then .ok (operator ≠ "")
    else .error (style.notBinary operator)

/-- Whether the condition that words say holds. Up to four words are read by their number. -/
def holds (style : ConditionStyle) (disk : Disk) (words : List String) : Except Complaint Bool :=
  match words with
  | [left, operator, right] => style.ofThree disk left operator right
  | ["!", a, b, c] => (style.ofThree disk a b c).map (!·)
  | ["(", a, b, ")"] => style.ofFew disk [a, b]
  | _ :: _ :: _ :: _ => style.ofMany disk words
  | words => style.ofFew disk words

end ConditionStyle

end HistoryExpansion.Shell
