import HistoryExpansion.Number
import HistoryExpansion.Shell.Permissions
import HistoryExpansion.Shell.Regex.Reader
import HistoryExpansion.Shell.Utility.Grep
import HistoryExpansion.Shell.Utility.Shown

/-!
# Expressions that choose files

An expression is made of tests and actions, which stand behind each other, between signs or in
parentheses. Behind each other they are all to hold; a sign for "or" binds less, and a comma least.
-/

namespace HistoryExpansion.Shell.Find

/-! ## Tests -/

/-- A number that something is compared with. -/
structure Amount where
  /-- What the comparison is to give. -/
  order : Ordering
  /-- The number. -/
  count : Nat

/-- Whether a number compares as is asked for. -/
def Amount.holds (amount : Amount) (n : Nat) : Bool :=
  compare n amount.count == amount.order

/-- A question about a file. -/
inductive Test where
  /-- Whether its name, or its whole path, fits a pattern. -/
  | name (pattern : String) (whole fold : Bool)
  /-- Whether its whole path fits an expression. -/
  | regex (regex : Regex) (fold : Bool)
  /-- Whether what a link leads to fits a pattern. -/
  | target (pattern : String) (fold : Bool)
  /-- Whether it is of one of some kinds. -/
  | kinds (letters : List Char)
  /-- Whether it takes so many units. -/
  | size (amount : Amount) (unit : Nat)
  /-- Whether it is empty. -/
  | empty
  /-- Whether it was changed so many units of time ago. -/
  | age (amount : Amount) (unit : Nat)
  /-- Whether it was changed after a time. -/
  | newer (time : Int)
  /-- Whether its permissions are these, or hold all or any of them. -/
  | mode (how : Char) (bits : Nat)
  /-- Whether it has so many names. -/
  | links (amount : Amount)
  /-- Whether it has a number. -/
  | number (amount : Amount)
  /-- Whether it stands at a place. -/
  | same (place : Location)
  /-- Whether something may be done with it. -/
  | access (bits : Nat)
  /-- What is known beforehand. -/
  | known (holds : Bool)

/-- Something that is done with a file. -/
inductive Action where
  /-- Its path is written, to the output or to a file. -/
  | print (ending : String) (file : Option String)
  /-- What is known of it is written in a format. -/
  | format (text : String) (file : Option String)
  /-- All that is known of it is written. -/
  | describe
  /-- A program is run, perhaps in the directory of the file, perhaps after a question. -/
  | run (words : List String) (within asks : Bool)
  /-- A program is run for many files at once. -/
  | gather (words : List String) (within : Bool)
  /-- It is removed. -/
  | delete
  /-- What is below it is left out. -/
  | prune
  /-- The search ends. -/
  | quit

/-- An expression. -/
inductive Expression where
  /-- A test. -/
  | test (test : Test)
  /-- An action. -/
  | act (action : Action)
  /-- The opposite of an expression. -/
  | not (body : Expression)
  /-- Two expressions, the second of which counts if the first holds. -/
  | and (first second : Expression)
  /-- Two expressions, the second of which counts if the first does not hold. -/
  | or (first second : Expression)
  /-- Two expressions, the second of which counts in any case. -/
  | both (first second : Expression)

/-- Whether an expression does something that makes it needless to print what it chooses. -/
def Expression.acts : Expression → Bool
  | test _ => false
  | act .prune => false
  | act .quit => false
  | act _ => true
  | not body => body.acts
  | and first second => first.acts || second.acts
  | or first second => first.acts || second.acts
  | both first second => first.acts || second.acts

/-- Whether an expression removes files. -/
def Expression.deletes : Expression → Bool
  | act .delete => true
  | test _ => false
  | act _ => false
  | not body => body.deletes
  | and first second => first.deletes || second.deletes
  | or first second => first.deletes || second.deletes
  | both first second => first.deletes || second.deletes

/-! ## Searches -/

/-- How directories are gone through. -/
structure Scope where
  /-- The least distance from where the search starts. -/
  least : Nat := 0
  /-- The greatest distance. -/
  most : Option Nat := none
  /-- Whether a directory comes behind what is in it. -/
  inner : Bool := false
  /-- Whether links are followed: all of them. -/
  follows : Bool := false
  /-- Whether the links that the search starts from are followed. -/
  followsStarts : Bool := false

/-- What is wrong with an expression. -/
inductive Fault where
  /-- There is no such word. -/
  | unknown (word : String)
  /-- A word needs another one behind it. -/
  | missing (word : String)
  /-- A word is no number. -/
  | notNumber (option word : String)
  /-- A word cannot stand behind another one. -/
  | badArgument (word argument : String)
  /-- There is no such kind of file. -/
  | badKind (word : String)
  /-- There is no such unit. -/
  | badUnit (word : String)
  /-- There are no such permissions. -/
  | badMode (word : String)
  /-- There is no such user. -/
  | badUser (word : String)
  /-- There is no such group. -/
  | badGroup (word : String)
  /-- There is no such file. -/
  | noFile (path : String) (error : DiskError)
  /-- A path stands behind the start of the expression. -/
  | latePath (word : String)
  /-- A parenthesis is not closed. -/
  | unclosed
  /-- A parenthesis is closed that was not opened. -/
  | closed
  /-- There is nothing between two parentheses. -/
  | hollow
  /-- There is nothing behind a sign. -/
  | nothingBehind (sign : String)
  /-- There is nothing before a sign. -/
  | nothingBefore (sign : String)
  /-- A regular expression cannot be read. -/
  | badRegex (word reason : String)
  /-- There is no such kind of regular expression. -/
  | badRegexKind (word : String)

/-- The kinds of regular expressions. -/
def regexKinds : List String :=
  ["findutils-default", "ed", "emacs", "gnu-awk", "grep", "posix-awk", "awk", "posix-basic",
    "posix-egrep", "egrep", "posix-extended", "posix-minimal-basic", "sed"]

/-- The wording of a fault. -/
def Fault.message : Fault → String
  | unknown word => "unknown predicate \x60" ++ word ++ "'"
  | missing word => "missing argument to \x60" ++ word ++ "'"
  | notNumber option word =>
    "Expected a positive decimal integer argument to " ++ option ++ ", but got " ++
      quotedAlways word
  | badArgument word argument => "invalid argument \x60" ++ argument ++ "' to \x60" ++ word ++ "'"
  | badKind word => "Unknown argument to -type: " ++ word
  | badUnit word => "invalid -size type \x60" ++ word ++ "'"
  | badMode word => "invalid mode " ++ quotedAlways word
  | badUser word => quotedAlways word ++ " is not the name of a known user"
  | badGroup word => quotedAlways word ++ " is not the name of an existing group"
  | noFile path error => quotedAlways path ++ ": " ++ error.reason
  | latePath word => "paths must precede expression: \x60" ++ word ++ "'"
  | .unclosed =>
    "invalid expression; I was expecting to find a ')' somewhere but did not see one."
  | closed => "you have too many ')'"
  | hollow => "invalid expression; empty parentheses are not allowed."
  | nothingBehind sign => "expected an expression after " ++ quotedAlways sign
  | nothingBefore sign =>
    "invalid expression; you have used a binary operator " ++ quotedAlways sign ++
      " with nothing before it."
  | badRegex word reason =>
      "failed to compile regular expression " ++ quotedAlways word ++ ": " ++ reason
  | badRegexKind word =>
    "Unknown regular expression type " ++ quotedAlways word ++ "; valid types are " ++
      String.intercalate ", " (regexKinds.map quotedAlways) ++ "."

/-! ## Signs -/

/-- A sign of an expression. -/
inductive Sign where
  /-- A test or an action. -/
  | item (expression : Expression)
  /-- A parenthesis that opens. -/
  | opening
  /-- A parenthesis that closes. -/
  | closing
  /-- The opposite. -/
  | negation (word : String)
  /-- Both. -/
  | conjunction (word : String)
  /-- One of two. -/
  | disjunction (word : String)
  /-- One and then the other. -/
  | sequence (word : String)

/-- What the words of an expression ask for. -/
structure Query where
  /-- The signs. -/
  signs : List Sign := []
  /-- How directories are gone through. -/
  scope : Scope := {}
  /-- The kind of regular expressions. -/
  regexKind : String := "findutils-default"

/-- A number with a sign before it. -/
def amount? (word : String) : Option Amount :=
  let read (order : Ordering) (digits : List Char) : Option Amount :=
    if digits.isEmpty ∨ !digits.all isDigit then none else some ⟨order, decimal digits⟩
  match word.toList with
  | '+' :: digits => read .gt digits
  | '-' :: digits => read .lt digits
  | digits => read .eq digits

/-- A number with a unit of size behind it. -/
def sizeTest (word : String) : Except Fault Test :=
  let chars := word.toList
  let (chars, unit) : List Char × Option Nat :=
    match chars.getLast? with
    | some 'b' => (chars.dropLast, some 512)
    | some 'c' => (chars.dropLast, some 1)
    | some 'w' => (chars.dropLast, some 2)
    | some 'k' => (chars.dropLast, some 1024)
    | some 'M' => (chars.dropLast, some (1024 ^ 2))
    | some 'G' => (chars.dropLast, some (1024 ^ 3))
    | some c => if isDigit c then (chars, some 512) else (chars, none)
    | none => (chars, none)
  match amount? (String.ofList chars), unit with
  | some amount, some unit => .ok (.size amount unit)
  | none, some _ => .error (.badArgument "-size" word)
  | _, none => .error (.badUnit (String.ofList (chars.drop (chars.length - 1))))

/-- The expression of an older kind, in which plus and question mark are operators, in the form in
which they are written behind a backslash. -/
def basicForm : List Char → List Char
  | [] => []
  | '\\' :: c :: rest =>
    if c = '+' ∨ c = '?' then c :: basicForm rest else '\\' :: c :: basicForm rest
  | '[' :: rest => '[' :: rest
  | c :: rest => if c = '+' ∨ c = '?' then '\\' :: c :: basicForm rest else c :: basicForm rest

/-- The test for a regular expression of a kind. -/
def regexTest (kind word : String) (fold : Bool) : Except Fault Test :=
  let extended :=
    ["gnu-awk", "posix-awk", "awk", "posix-egrep", "egrep", "posix-extended"].contains kind
  let chars := Utility.charsOfText word
  let text := if kind = "findutils-default" ∨ kind = "emacs" then basicForm chars else chars
  match Regex.parse { extended := extended } text with
  | .ok regex => .ok (.regex regex fold)
  | .error fault =>
    let reason := if word.endsWith "[" then "Invalid regular expression" else fault.message
    .error (.badRegex word reason)

/-- The test for permissions. -/
def modeTest (word : String) : Except Fault Test :=
  let (how, body) :=
    match word.toList with
    | '-' :: rest => ('-', rest)
    | '/' :: rest => ('/', rest)
    | rest => ('=', rest)
  match PermissionChange.read? (String.ofList body) with
  | some change => .ok (.mode how (change.apply false 0 0))
  | none => .error (.badMode word)

/-- The words of a program up to the one that ends them, and the words behind that. -/
def takeProgram (word : String) (gathers : Bool) : (before : List String) → List String →
    Except Fault (List String × Bool × List String)
  | _, [] => .error (.missing word)
  | before, next :: rest =>
    if next = ";" then
      if before.isEmpty then .error (.badArgument word ";") else .ok (before.reverse, false, rest)
    else if next = "+" ∧ gathers ∧ before.head? = some "\x7b\x7d" then
      .ok (before.tail.reverse, true, rest)
    else takeProgram word gathers (next :: before) rest

/-- A format with what stands behind backslashes in its place. -/
def unescaped : List Char → List Char
  | [] => []
  | '\\' :: c :: rest =>
    let plain : Option Char :=
      match c with
      | 'a' => some '\x07'
      | 'b' => some '\x08'
      | 'f' => some '\x0c'
      | 'n' => some '\n'
      | 'r' => some '\r'
      | 't' => some '\t'
      | 'v' => some '\x0b'
      | '0' => some '\x00'
      | '\\' => some '\\'
      | _ => none
    match plain with
    | some c => c :: unescaped rest
    | none => '\\' :: c :: unescaped rest
  | c :: rest => c :: unescaped rest

/-- Reads the words of an expression. -/
def readWords (disk : Disk) : (fuel : Nat) → List String → Query → Except Fault Query
  | 0, _, query => .ok query
  | _, [], query => .ok query
  | fuel + 1, word :: rest, query =>
    let goOn (sign : Sign) (rest : List String) : Except Fault Query :=
      readWords disk fuel rest { query with signs := query.signs ++ [sign] }
    let test (test : Test) (rest : List String) : Except Fault Query :=
      goOn (.item (.test test)) rest
    let act (action : Action) (rest : List String) : Except Fault Query :=
      goOn (.item (.act action)) rest
    let settle (scope : Scope) (rest : List String) : Except Fault Query :=
      readWords disk fuel rest
        { query with scope := scope, signs := query.signs ++ [.item (.test (.known true))] }
    let taking (body : String → List String → Except Fault Query) : Except Fault Query :=
      match rest with
      | argument :: rest => body argument rest
      | [] => .error (.missing word)
    let amount (make : Amount → Test) : Except Fault Query :=
      taking fun argument rest =>
        match amount? argument with
        | some amount => test (make amount) rest
        | none => .error (.badArgument word argument)
    let depth (set : Nat → Scope) : Except Fault Query :=
      taking fun argument rest =>
        if argument.isEmpty ∨ !argument.toList.all isDigit then .error (.notNumber word argument)
        else settle (set (decimal argument.toList)) rest
    let program (within gathers asks : Bool) : Except Fault Query := do
      let (words, gathered, rest) ← takeProgram word gathers [] rest
      act (if gathered then .gather words within else .run words within asks) rest
    let timeOfFile (path : String) : Except Fault Int :=
      match disk.locate path with
      | .error error => .error (.noFile path error)
      | .ok place =>
        if (disk.entry? place).isSome then .ok (disk.time place)
          else .error (.noFile path .notFound)
    match word with
    | "(" => goOn .opening rest
    | ")" => goOn .closing rest
    | "!" => goOn (.negation word) rest
    | "-not" => goOn (.negation word) rest
    | "-a" => goOn (.conjunction word) rest
    | "-and" => goOn (.conjunction word) rest
    | "-o" => goOn (.disjunction word) rest
    | "-or" => goOn (.disjunction word) rest
    | "," => goOn (.sequence word) rest
    | "-name" => taking fun argument rest => test (.name argument false false) rest
    | "-iname" => taking fun argument rest => test (.name argument false true) rest
    | "-path" => taking fun argument rest => test (.name argument true false) rest
    | "-wholename" => taking fun argument rest => test (.name argument true false) rest
    | "-ipath" => taking fun argument rest => test (.name argument true true) rest
    | "-iwholename" => taking fun argument rest => test (.name argument true true) rest
    | "-lname" => taking fun argument rest => test (.target argument false) rest
    | "-ilname" => taking fun argument rest => test (.target argument true) rest
    | "-regex" => taking fun argument rest => do
      test (← regexTest query.regexKind argument false) rest
    | "-iregex" => taking fun argument rest => do
      test (← regexTest query.regexKind argument true) rest
    | "-regextype" => taking fun argument rest =>
      if regexKinds.contains argument then
        readWords disk fuel rest
          { query with
            regexKind := argument, signs := query.signs ++ [.item (.test (.known true))] }
      else .error (.badRegexKind argument)
    | "-type" => taking fun argument rest =>
      let letters := argument.toList.filter (· ≠ ',')
      if letters.isEmpty ∨ !letters.all "bcdpflsD".toList.contains then .error (.badKind argument)
      else test (.kinds letters) rest
    | "-xtype" => taking fun argument rest =>
      let letters := argument.toList.filter (· ≠ ',')
      if letters.isEmpty ∨ !letters.all "bcdpflsD".toList.contains then .error (.badKind argument)
      else test (.kinds letters) rest
    | "-size" => taking fun argument rest => do test (← sizeTest argument) rest
    | "-empty" => test .empty rest
    | "-mtime" => amount (.age · 86400000)
    | "-atime" => amount (.age · 86400000)
    | "-ctime" => amount (.age · 86400000)
    | "-mmin" => amount (.age · 60000)
    | "-amin" => amount (.age · 60000)
    | "-cmin" => amount (.age · 60000)
    | "-newer" => taking fun argument rest => do test (.newer (← timeOfFile argument)) rest
    | "-anewer" => taking fun argument rest => do test (.newer (← timeOfFile argument)) rest
    | "-cnewer" => taking fun argument rest => do test (.newer (← timeOfFile argument)) rest
    | "-newermt" => taking fun argument rest =>
      match Moment.read? (presentMoment disk) argument with
      | some moment => test (.newer (timeOf moment)) rest
      | none => .error (.badArgument word argument)
    | "-perm" => taking fun argument rest => do test (← modeTest argument) rest
    | "-links" => amount .links
    | "-inum" => amount .number
    | "-samefile" => taking fun argument rest =>
      match disk.locate argument with
      | .error error => .error (.noFile argument error)
      | .ok place =>
        if (disk.entry? place).isSome then test (.same place) rest
        else .error (.noFile argument .notFound)
    | "-user" => taking fun argument rest =>
      if argument = "root" ∨ argument = "0" then test (.known true) rest
      else if argument.toList.all isDigit then test (.known false) rest
      else .error (.badUser argument)
    | "-group" => taking fun argument rest =>
      if argument = "root" ∨ argument = "0" then test (.known true) rest
      else if argument.toList.all isDigit then test (.known false) rest
      else .error (.badGroup argument)
    | "-uid" => taking fun argument rest =>
      match amount? argument with
      | some amount => test (.known (amount.holds 0)) rest
      | none => .error (.badArgument word argument)
    | "-gid" => taking fun argument rest =>
      match amount? argument with
      | some amount => test (.known (amount.holds 0)) rest
      | none => .error (.badArgument word argument)
    | "-readable" => test (.access 0) rest
    | "-writable" => test (.access 0) rest
    | "-executable" => test (.access 0o111) rest
    | "-nouser" => test (.known false) rest
    | "-nogroup" => test (.known false) rest
    | "-true" => test (.known true) rest
    | "-false" => test (.known false) rest
    | "-maxdepth" => depth fun n => { query.scope with most := some n }
    | "-mindepth" => depth fun n => { query.scope with least := n }
    | "-depth" => settle { query.scope with inner := true } rest
    | "-d" => settle { query.scope with inner := true } rest
    | "-follow" => settle { query.scope with follows := true } rest
    | "-xdev" => settle query.scope rest
    | "-mount" => settle query.scope rest
    | "-noleaf" => settle query.scope rest
    | "-daystart" => settle query.scope rest
    | "-warn" => settle query.scope rest
    | "-nowarn" => settle query.scope rest
    | "-ignore_readdir_race" => settle query.scope rest
    | "-noignore_readdir_race" => settle query.scope rest
    | "-print" => act (.print "\n" none) rest
    | "-print0" => act (.print "\x00" none) rest
    | "-printf" => taking fun argument rest => act (.format argument none) rest
    | "-fprint" => taking fun argument rest => act (.print "\n" (some argument)) rest
    | "-fprint0" => taking fun argument rest => act (.print "\x00" (some argument)) rest
    | "-fprintf" => taking fun file rest =>
      match rest with
      | argument :: rest => act (.format argument (some file)) rest
      | [] => .error (.missing word)
    | "-ls" => act .describe rest
    | "-exec" => program false true false
    | "-execdir" => program true true false
    | "-ok" => program false false true
    | "-okdir" => program true false true
    | "-delete" => act .delete rest
    | "-prune" => act .prune rest
    | "-quit" => act .quit rest
    | word =>
      if word.startsWith "-" ∧ word ≠ "-" then .error (.unknown word) else .error (.latePath word)

/-! ## Structure -/

/-- What reads signs and gives an expression. -/
abbrev SignReader := StateT (List Sign) (Except Fault)

/-- The sign that comes next. -/
def nextSign? : SignReader (Option Sign) := do
  return (← get).head?

/-- Takes the next sign. -/
def skipSign : SignReader Unit :=
  modify List.tail

mutual

/-- Reads a test, an action, the opposite of one, or an expression in parentheses. `after` is the
sign before it. -/
def readOne (after : Option String) : (fuel : Nat) → SignReader Expression
  | 0 => throw .unclosed
  | fuel + 1 => do
    match ← nextSign? with
    | some (.item expression) =>
      skipSign
      return expression
    | some (.negation word) =>
      skipSign
      return .not (← readOne (some word) fuel)
    | some .opening =>
      skipSign
      match ← nextSign? with
      | some .closing => throw .hollow
      | _ => pure ()
      let body ← readSequence none fuel
      match ← nextSign? with
      | some .closing =>
        skipSign
        return body
      | _ => throw .unclosed
    | some .closing =>
      match after with
      | some sign => throw (.nothingBehind sign)
      | none => throw .closed
    | some (.conjunction word) => throw (.nothingBefore word)
    | some (.disjunction word) => throw (.nothingBefore word)
    | some (.sequence word) => throw (.nothingBefore word)
    | none =>
      match after with
      | some sign => throw (.nothingBehind sign)
      | none => throw .unclosed

/-- Goes on with what is to hold too. -/
def moreAnd : (fuel : Nat) → Expression → SignReader Expression
  | 0, first => return first
  | fuel + 1, first => do
    match ← nextSign? with
    | some (.conjunction word) =>
      skipSign
      moreAnd fuel (.and first (← readOne (some word) fuel))
    | some (.disjunction _) => return first
    | some (.sequence _) => return first
    | some .closing => return first
    | none => return first
    | some _ => moreAnd fuel (.and first (← readOne none fuel))

/-- Reads expressions that are all to hold. -/
def readAnd (after : Option String) : (fuel : Nat) → SignReader Expression
  | 0 => throw .unclosed
  | fuel + 1 => do moreAnd fuel (← readOne after fuel)

/-- Goes on with what may hold instead. -/
def moreOr : (fuel : Nat) → Expression → SignReader Expression
  | 0, first => return first
  | fuel + 1, first => do
    match ← nextSign? with
    | some (.disjunction word) =>
      skipSign
      moreOr fuel (.or first (← readAnd (some word) fuel))
    | _ => return first

/-- Goes on with what comes behind. -/
def moreSequence : (fuel : Nat) → Expression → SignReader Expression
  | 0, first => return first
  | fuel + 1, first => do
    match ← nextSign? with
    | some (.sequence word) =>
      skipSign
      let second ← readAnd (some word) fuel
      moreSequence fuel (.both first (← moreOr fuel second))
    | _ => return first

/-- Reads an expression. -/
def readSequence (after : Option String) : (fuel : Nat) → SignReader Expression
  | 0 => throw .unclosed
  | fuel + 1 => do
    let first ← readAnd after fuel
    moreSequence fuel (← moreOr fuel first)

end

/-- The expression of signs. Without any it is one that always holds. -/
def expressionOf (signs : List Sign) : Except Fault Expression := do
  if signs.isEmpty then return .test (.known true)
  let (expression, rest) ← (readSequence none (4 * signs.length + 8)).run signs
  if rest.isEmpty then return expression else throw .closed

end HistoryExpansion.Shell.Find
