import HistoryExpansion.Shell.Utility.Sed.Script

/-!
# Reading scripts of the stream editor

The text of a script is read from left to right, and what is wrong with it is said with the number
of characters up to there.
-/

namespace HistoryExpansion.Shell.Utility.Sed

/-! ## Steps of reading -/

/-- Where something is wrong with a script. -/
inductive Spot where
  /-- Before what is left of the text. -/
  | before (rest : List Char)
  /-- Somewhere in the text. -/
  | somewhere
  /-- Among all texts of the script. -/
  | overall

/-- Why a script cannot be read. -/
structure Misreading where
  /-- Where it goes wrong. -/
  spot : Spot
  /-- What is wrong. -/
  reason : String

/-- A step of reading. -/
abbrev Step := StateT (List Char) (Except Misreading)

/-- Fails where the reading stands. -/
def misread {α : Type} (reason : String) : Step α := do
  throw ⟨.before (← get), reason⟩

/-- Fails one character further on. -/
def misreadNext {α : Type} (reason : String) : Step α := do
  throw ⟨.before (← get).tail, reason⟩

/-- The next character. -/
def peek : Step (Option Char) := do
  return (← get).head?

/-- Takes the next character away. -/
def skip : Step Unit :=
  modify List.tail

/-- Takes characters of a class away. -/
def takeWhile (class? : Char → Bool) : Step (List Char) := do
  let text ← get
  set (text.dropWhile class?)
  return text.takeWhile class?

/-- A blank that does not end a line. -/
def isBlankChar (c : Char) : Bool := c == ' ' || c == '\t'

/-- Takes blanks away. -/
def skipBlanks : Step Unit := do
  let _ ← takeWhile isBlankChar

/-- Takes a number away if there is one. -/
def takeNumber? : Step (Option Nat) := do
  let digits ← takeWhile isDigit
  return if digits.isEmpty then none else some (decimal digits)

/-! ## Texts between delimiters -/

/-- Takes what stands between brackets, from behind the opening one up to behind the closing one. -/
def takeBracketed : (fuel : Nat) → (first : Bool) → (found : List Char) → List Char →
    Option (List Char × List Char)
  | 0, _, _, _ => none
  | _, _, _, [] => none
  | fuel + 1, first, found, c :: rest =>
    let plain : Option (List Char × List Char) :=
      takeBracketed fuel (first && c == '^') (c :: found) rest
    if c = ']' ∧ !first then some ((']' :: found).reverse, rest)
    else if c = '\n' then none
    else if c = '[' then
      match rest with
      | d :: behind =>
        if d = ':' ∨ d = '.' ∨ d = '=' then
          let inner := behind.takeWhile (· ≠ ']')
          match behind.drop inner.length with
          | _ :: behind =>
            takeBracketed fuel false (']' :: inner.reverse ++ d :: c :: found) behind
          | [] => none
        else plain
      | [] => none
    else plain

/-- Takes a text up to a delimiter, which is taken away. The delimiter stands for itself behind a
backslash, and in an expression between brackets. -/
def takeDelimited (delimiter : Char) (regex : Bool) : (fuel : Nat) → (found : List Char) →
    List Char → Option (List Char × List Char)
  | 0, _, _ => none
  | _, _, [] => none
  | fuel + 1, found, c :: rest =>
    if c = delimiter then some (found.reverse, rest)
    else if c = '\\' then
      match rest with
      | [] => none
      | d :: rest =>
        if d = delimiter ∧ (regex ∨ d ≠ '&') then
          takeDelimited delimiter regex fuel (d :: found) rest
        else if d = 'n' ∧ regex then takeDelimited delimiter regex fuel ('\n' :: found) rest
        else takeDelimited delimiter regex fuel (d :: '\\' :: found) rest
    else if c = '\n' ∧ regex then none
    else if c = '[' ∧ regex then
      match takeBracketed (rest.length + 1) true [] rest with
      | some (inner, rest) =>
        takeDelimited delimiter regex fuel (inner.reverse ++ '[' :: found) rest
      | none => takeDelimited delimiter regex fuel (c :: found) rest
    else takeDelimited delimiter regex fuel (c :: found) rest

/-- Takes a text up to a delimiter, or fails. -/
def readDelimited (delimiter : Char) (regex : Bool) (reason : String) : Step (List Char) := do
  let text ← get
  match takeDelimited delimiter regex (text.length + 1) [] text with
  | some (found, rest) =>
    set rest
    return found
  | none =>
    set ([] : List Char)
    misread reason

/-- The expression that a text writes; none for an empty text. -/
def patternOf (extended : Bool) (options : Regex.Options) (text : List Char) : Step Pattern := do
  if text.isEmpty then return ⟨none, options⟩
  match Regex.parse { extended := extended, controls := true } text with
  | .ok regex => return ⟨some regex, options⟩
  | .error fault => misread fault.message

/-! ## Lines -/

/-- Takes the letters behind an expression that names lines. -/
def takePatternLetters : (fuel : Nat) → Regex.Options → Step Regex.Options
  | 0, options => return options
  | fuel + 1, options => do
    match ← peek with
    | some 'I' =>
      skip
      takePatternLetters fuel { options with fold := true }
    | some 'M' =>
      skip
      takePatternLetters fuel { options with lines := true }
    | _ => return options

/-- Takes an expression that names lines, from behind its delimiter. -/
def readLinePattern (extended : Bool) (delimiter : Char) : Step Pattern := do
  let text ← readDelimited delimiter true "unterminated address regex"
  let options ← takePatternLetters (← get).length {}
  patternOf extended options text

/-- Takes what names a line, if anything does. -/
def takePlace? (extended : Bool) : Step (Option Place) := do
  match ← peek with
  | some '$' =>
    skip
    return some .last
  | some '/' =>
    skip
    return some (.found (← readLinePattern extended '/'))
  | some '\\' =>
    skip
    let delimiter := (← peek).getD '/'
    skip
    return some (.found (← readLinePattern extended delimiter))
  | some c =>
    if !isDigit c then return none
    let first := (← takeNumber?).getD 0
    skipBlanks
    if (← peek) = some '~' then
      skip
      skipBlanks
      let step := (← takeNumber?).getD 0
      return some (if step = 0 then .line first else .steps first step)
    return some (.line first)
  | none => return none

/-- Takes the end of a range of lines. -/
def readFinish (extended : Bool) : Step Finish := do
  match ← peek with
  | some '+' =>
    skip
    match ← takeNumber? with
    | some count => return .further count
    | none => misreadNext "expected number"
  | some '~' =>
    skip
    match ← takeNumber? with
    | some count => return .multiple count
    | none => misreadNext "expected number"
  | _ =>
    match ← takePlace? extended with
    | some place => return .at place
    | none => misreadNext "unexpected \x60,'"

/-- Takes the lines that an instruction is for. -/
def readScope (extended : Bool) : Step Scope := do
  match ← takePlace? extended with
  | none => return .all
  | some start =>
    skipBlanks
    let scope ←
      if (← peek) = some ',' then
        skip
        skipBlanks
        pure (Scope.between start (← readFinish extended))
      else pure (Scope.at start)
    match scope with
    | .at (.line 0) => misreadNext "invalid usage of line address 0"
    | .between (.line 0) (.at (.found _)) => return scope
    | .between (.line 0) _ => misreadNext "invalid usage of line address 0"
    | _ => return scope

/-! ## Arguments of instructions -/

/-- Takes the rest of the line away. -/
def takeLine : Step (List Char) := do
  let line ← takeWhile (· ≠ '\n')
  skip
  return line

/-- Takes a name of a file away. -/
def readName : Step String := do
  skipBlanks
  let line ← takeLine
  if line.isEmpty then misread "missing filename in r/R/w/W commands"
  return String.ofList (ofOctetChars line)

/-- Takes a label away. -/
def takeLabel : Step String := do
  skipBlanks
  let name ← takeWhile fun c => c ≠ '\n' && c ≠ ';' && !isBlankChar c
  return String.ofList name

/-- Takes the text of an instruction that prints one: a backslash keeps a line break in it. -/
def takeText : (fuel : Nat) → (found : List Char) → List Char → List Char × List Char
  | 0, found, text => (found.reverse, text)
  | _, found, [] => (found.reverse, [])
  | fuel + 1, found, c :: rest =>
    if c = '\n' then (found.reverse, rest)
    else if c = '\\' then
      match rest with
      | [] => (found.reverse, [])
      | d :: rest => takeText fuel ((Regex.controlChar? d).getD d :: found) rest
    else takeText fuel (c :: found) rest

/-- Takes the text of an instruction that prints one, which may start on the next line behind a
backslash. -/
def readText : Step (List Char) := do
  skipBlanks
  match ← get with
  | [] => misread "expected \\ after \x60a', \x60c' or \x60i'"
  | '\\' :: rest =>
    let behind := rest.dropWhile isBlankChar
    match behind with
    | '\n' :: behind => set behind
    | _ => set rest
    if (← get).isEmpty then misread "incomplete command"
  | _ => pure ()
  let text ← get
  let (found, rest) := takeText (text.length + 1) [] text
  set rest
  return found ++ ['\n']

/-- The change of case that a letter asks for. -/
def caseChange? (c : Char) : Option CaseChange :=
  if c = 'U' then some .upper
  else if c = 'L' then some .lower
  else if c = 'u' then some .upperNext
  else if c = 'l' then some .lowerNext
  else if c = 'E' then some .stop
  else none

/-- The parts of a replacement. -/
def partsOf : List Char → List Part
  | [] => []
  | ['\\'] => [.char '\\']
  | '\\' :: c :: rest =>
    let part : Part :=
      if isDigit c then .group (c.toNat - 0x30)
      else
        match caseChange? c with
        | some change => .case change
        | none => .char ((Regex.controlChar? c).getD c)
    part :: partsOf rest
  | '&' :: rest => .group 0 :: partsOf rest
  | c :: rest => .char c :: partsOf rest

/-- The letters behind a substitution. -/
structure Letters where
  /-- Whether all matches are replaced. -/
  further : Bool := false
  /-- The first match that is replaced. -/
  first : Option Nat := none
  /-- Whether the line is printed. -/
  prints : Bool := false
  /-- How the expression is matched. -/
  options : Regex.Options := {}
  /-- The file that the line is written to. -/
  file : Option String := none

/-- Whether a character ends an instruction. -/
def endsInstruction (c : Char) : Bool :=
  c == '\n' || c == ';' || c == '\x7d' || c == '#'

/-- Takes the letters behind a substitution. -/
def readLetters : (fuel : Nat) → Letters → Step Letters
  | 0, letters => return letters
  | fuel + 1, letters => do
    match ← peek with
    | none => return letters
    | some c =>
      if c = '\x7d' ∨ c = '#' then return letters
      if c = '\n' ∨ c = ';' then
        skip
        return letters
      if isBlankChar c ∨ c = '\x0d' then
        skip
        readLetters fuel letters
      else if isDigit c then
        let number := (← takeNumber?).getD 0
        if letters.first.isSome then misread "multiple number options to \x60s' command"
        if number = 0 then misread "number option to \x60s' command may not be zero"
        readLetters fuel { letters with first := some number }
      else
        skip
        match c with
        | 'g' =>
          if letters.further then misread "multiple \x60g' options to \x60s' command"
          readLetters fuel { letters with further := true }
        | 'p' =>
          if letters.prints then misread "multiple \x60p' options to \x60s' command"
          readLetters fuel { letters with prints := true }
        | 'i' => readLetters fuel { letters with options.fold := true }
        | 'I' => readLetters fuel { letters with options.fold := true }
        | 'm' => readLetters fuel { letters with options.lines := true }
        | 'M' => readLetters fuel { letters with options.lines := true }
        | 'e' => readLetters fuel letters
        | 'w' => return { letters with file := some (← readName) }
        | _ => misread "unknown option to \x60s'"

/-- Takes a substitution away. -/
def readSubstitution (extended : Bool) : Step Action := do
  let reason := "unterminated \x60s' command"
  match ← get with
  | [] => misread reason
  | delimiter :: rest =>
    set rest
    if delimiter = '\n' ∨ delimiter = '\\' then misread reason
    let text ← readDelimited delimiter true reason
    let replacement ← readDelimited delimiter false reason
    let letters ← readLetters ((← get).length + 1) {}
    let pattern ← patternOf extended letters.options text
    let parts := partsOf replacement
    let groups := (pattern.regex.map Regex.groupCount).getD 9
    for part in parts do
      match part with
      | .group number =>
        if number > groups then
          misread ("invalid reference \\" ++ toString number ++ " on \x60s' command's RHS")
      | _ => pure ()
    return .substitute
      { pattern := pattern, parts := parts, first := letters.first.getD 1
        further := letters.further, prints := letters.prints, file := letters.file }

/-- The characters of one of the lists of an exchange. -/
def exchangeList (delimiter : Char) : List Char → List Char
  | '\\' :: c :: rest =>
    if c = '\\' ∨ c = delimiter then c :: exchangeList delimiter rest
    else
      match Regex.controlChar? c with
      | some control => control :: exchangeList delimiter rest
      | none => '\\' :: c :: exchangeList delimiter rest
  | c :: rest => c :: exchangeList delimiter rest
  | [] => []

/-- Takes an exchange of characters away. -/
def readExchange : Step Action := do
  let reason := "unterminated \x60y' command"
  match ← get with
  | [] => misread reason
  | delimiter :: rest =>
    set rest
    let first := exchangeList delimiter (← readDelimited delimiter false reason)
    let second := exchangeList delimiter (← readDelimited delimiter false reason)
    if first.length ≠ second.length then
      misread "strings for \x60y' command are different lengths"
    return .exchangeChars (first.zip second)

/-- Takes away what may stand behind an instruction. -/
def readEnd : Step Unit := do
  skipBlanks
  match ← peek with
  | none => pure ()
  | some '\n' => skip
  | some ';' => skip
  | some c => if !endsInstruction c then misreadNext "extra characters after command"

/-! ## Instructions -/

/-- An instruction whose jumps and blocks are not settled. -/
inductive Draft where
  /-- One that is settled. -/
  | done (action : Action)
  /-- The start of a block. -/
  | opening
  /-- The end of a block. -/
  | closing
  /-- A place that can be jumped to. -/
  | label (name : String)
  /-- A jump. -/
  | jump (occasion : Occasion) (label : String)

/-- Takes what an instruction does away. -/
def readAction (extended : Bool) (scope : Scope) (c : Char) : Step Draft := do
  let plain (action : Action) : Step Draft := do
    readEnd
    return .done action
  let jump (occasion : Occasion) : Step Draft := do
    let name ← takeLabel
    readEnd
    return .jump occasion name
  let unlessRange (step : Step Draft) : Step Draft := do
    match scope with
    | .between _ _ => misread "command only uses one address"
    | _ => step
  match c with
  | '\x7b' => return .opening
  | '\x7d' =>
    readEnd
    return .closing
  | '=' => plain .number
  | 'a' => return .done (.append (← readText))
  | 'i' => return .done (.insert (← readText))
  | 'c' => return .done (.change (← readText))
  | ':' =>
    match scope with
    | .all => pure ()
    | _ => misread ": doesn't want any addresses"
    skipBlanks
    let name ← takeWhile fun c => c ≠ '\n' && c ≠ ';' && !isBlankChar c
    if name.isEmpty then misread "\":\" lacks a label"
    readEnd
    return .label (String.ofList name)
  | 'b' => jump .always
  | 't' => jump .changed
  | 'T' => jump .unchanged
  | 'd' => plain .delete
  | 'D' => plain .deleteFirst
  | 'h' => plain (.keep false)
  | 'H' => plain (.keep true)
  | 'g' => plain (.recall false)
  | 'G' => plain (.recall true)
  | 'x' => plain .exchange
  | 'l' =>
    skipBlanks
    let width ← takeNumber?
    plain (.list width)
  | 'n' => plain .next
  | 'N' => plain .nextAdded
  | 'p' => plain .print
  | 'P' => plain .printFirst
  | 'q' =>
    unlessRange do
      skipBlanks
      let code := (← takeNumber?).getD 0
      plain (.quit code false)
  | 'Q' =>
    unlessRange do
      skipBlanks
      let code := (← takeNumber?).getD 0
      plain (.quit code true)
  | 'r' => return .done (.readFile (← readName))
  | 'R' => return .done (.readLine (← readName))
  | 's' => return .done (← readSubstitution extended)
  | 'w' => return .done (.write (← readName) false)
  | 'W' => return .done (.write (← readName) true)
  | 'y' =>
    let action ← readExchange
    plain action
  | 'F' => plain .inputName
  | 'z' => plain .clear
  | c => misread ("unknown command: \x60" ++ String.ofList [c] ++ "'")

/-- Takes instructions away up to the end, within so many blocks. -/
def readDrafts (extended : Bool) : (fuel blocks : Nat) → Step (List (Scope × Bool × Draft))
  | 0, _ => return []
  | fuel + 1, blocks => do
    let _ ← takeWhile fun c => c == ' ' || c == ';' || ('\t' ≤ c && c ≤ '\x0d')
    match ← peek with
    | none => return []
    | some '#' =>
      let _ ← takeLine
      readDrafts extended fuel blocks
    | some _ =>
      let scope ← readScope extended
      skipBlanks
      let negated := (← peek) = some '!'
      if negated then
        skip
        skipBlanks
        if (← peek) = some '!' then misreadNext "multiple \x60!'s"
      match ← peek with
      | none => misread "missing command"
      | some c =>
        skip
        if c = '#' then misread "comments don't accept any addresses"
        if c = '\x7d' then
          if blocks = 0 then misread "unexpected \x60\x7d'"
          match scope with
          | .all => pure ()
          | _ => misread "\x7d doesn't want any addresses"
        let draft ← readAction extended scope c
        let blocks := if c = '\x7b' then blocks + 1 else if c = '\x7d' then blocks - 1 else blocks
        return (scope, negated, draft) :: (← readDrafts extended fuel blocks)

/-- The number of the instruction behind the one that closes a block. -/
def closingAt? : (depth index : Nat) → List Draft → Option Nat
  | _, _, [] => none
  | depth, index, .opening :: rest => closingAt? (depth + 1) (index + 1) rest
  | 0, index, .closing :: _ => some (index + 1)
  | depth + 1, index, .closing :: rest => closingAt? depth (index + 1) rest
  | depth, index, _ :: rest => closingAt? depth (index + 1) rest

/-- Settles the jumps and blocks of instructions. -/
def settle (drafts : List (Scope × Bool × Draft)) : Except Misreading (List Instruction) :=
  let plain := drafts.map fun draft => draft.2.2
  let labelAt? (name : String) : Option Nat :=
    plain.findIdx? fun
      | .label other => other == name
      | _ => false
  drafts.zipIdx.mapM fun ((scope, negated, draft), index) => do
    let action ← match draft with
      | .done action => pure action
      | .closing => pure .nothing
      | .label _ => pure .nothing
      | .opening =>
        match closingAt? 0 (index + 1) (plain.drop (index + 1)) with
        | some behind => pure (.block behind)
        | none => throw ⟨.somewhere, "unmatched \x60\x7b'"⟩
      | .jump occasion name =>
        if name = "" then pure (.jump occasion none)
        else
          match labelAt? name with
          | some target => pure (.jump occasion (some target))
          | none => throw ⟨.overall, "can't find label for jump to \x60" ++ name ++ "'"⟩
    return ⟨scope, negated, action⟩

/-- The instructions that a text writes. -/
def instructionsOf (extended : Bool) (text : List Char) : Except Misreading (List Instruction) := do
  let (drafts, _) ← readDrafts extended (text.length + 1) 0 text
  settle drafts

end HistoryExpansion.Shell.Utility.Sed
