import HistoryExpansion.Shell.Program.Awk.Token

/-!
# Reading programs

The tokens of a program are read as rules and functions. Operators bind in steps, and texts that
stand behind each other are joined. Behind the word for printing some signs say where the output
goes, unless they stand in parentheses.
-/

namespace HistoryExpansion.Shell.Awk

/-- How far a program was read. -/
structure Reading where
  /-- The tokens that are left. -/
  rest : List Lexeme
  /-- Whether names are tables, as far as that is known. -/
  kinds : List (String × Bool) := []
  /-- The arguments of the function at hand, and whether they are tables. -/
  parameters : List (String × Option Bool) := []
  /-- Whether a function is read. -/
  inFunction : Bool := false
  /-- Whether there is a record. -/
  hasRecord : Bool := true
  /-- The number of loops around. -/
  loops : Nat := 0
  /-- The functions that are called. -/
  calls : List String := []
  /-- The functions so far. -/
  functions : List Function := []

/-- What reads tokens. A fault comes with its line. -/
abbrev Reader := StateT Reading (Except (Fault × Nat))

namespace Reader

/-- The token that comes next. -/
def peek : Reader Lexeme := do
  match (← get).rest with
  | lexeme :: _ => return lexeme
  | [] => return ⟨.finish, "end of file", 1⟩

/-- The sign that comes next, if it is one. -/
def sign? : Reader (Option String) := do
  match (← peek).token with
  | .sign text => return some text
  | _ => return none

/-- Takes the next token. -/
def skip : Reader Unit :=
  modify fun reading => { reading with rest := reading.rest.tail }

/-- Fails with a fault at the next token. -/
def fault {α : Type} (fault : Fault) : Reader α := do
  throw (fault, (← peek).line)

/-- Fails since the next token cannot stand there. -/
def misplaced {α : Type} : Reader α := do
  let lexeme ← peek
  match lexeme.token with
  | .wrong reason => fault reason
  | _ => fault (.misplaced lexeme.text)

/-- Takes a sign if it comes next. -/
def take? (text : String) : Reader Bool := do
  if (← sign?) = some text then
    skip
    return true
  else return false

/-- Takes a sign, which has to come next. -/
def expect (text : String) : Reader Unit := do
  if !(← take? text) then misplaced

/-- Whether a word comes next. -/
def isWord (word : String) : Reader Bool := do
  match (← peek).token with
  | .word other => return other == word
  | _ => return false

/-- Takes the ends of lines. -/
def skipLines : (fuel : Nat) → Reader Unit
  | 0 => return
  | fuel + 1 => do
    match (← peek).token with
    | .lineEnd =>
      skip
      skipLines fuel
    | _ => return

/-- Takes the ends of lines and of statements. -/
def skipEnds : (fuel : Nat) → Reader Unit
  | 0 => return
  | fuel + 1 => do
    match (← peek).token with
    | .lineEnd =>
      skip
      skipEnds fuel
    | .sign ";" =>
      skip
      skipEnds fuel
    | _ => return

/-- Notes that a name is a table, or that it is none. -/
def note (name : String) (isTable : Bool) : Reader Unit := do
  let reading ← get
  let known := match reading.parameters.lookup name with
    | some kind => kind
    | none => reading.kinds.lookup name
  match known with
  | some kind =>
    if kind ≠ isTable then fault (if kind then .noVariable name else .noTable name)
  | none =>
    if (reading.parameters.lookup name).isSome then
      set { reading with
        parameters := (name, some isTable) :: reading.parameters.filter (·.1 ≠ name) }
    else set { reading with kinds := (name, isTable) :: reading.kinds }

/-- The operation that a sign sets places by. -/
def settingOf? (text : String) : Option (Option Operation) :=
  match text with
  | "=" => some none
  | "+=" => some (some .plus)
  | "-=" => some (some .minus)
  | "*=" => some (some .times)
  | "/=" => some (some .divide)
  | "%=" => some (some .modulo)
  | "^=" => some (some .power)
  | _ => none

/-- What a sign compares by. -/
def relationOf? (text : String) : Option Relation :=
  match text with
  | "<" => some .less
  | "<=" => some .atMost
  | "==" => some .equal
  | "!=" => some .different
  | ">" => some .greater
  | ">=" => some .atLeast
  | _ => none

/-- Whether a token starts an operand that is joined to the one before it. -/
def startsOperand : Token → Bool
  | .number _ => true
  | .text _ => true
  | .regex _ => true
  | .name _ => true
  | .called _ => true
  | .known _ => true
  | .sign text => ["$", "!", "(", "++", "--"].contains text
  | _ => false

/-- The keys that an expression in front of a table stands for. -/
def keysOf : Expression → List Expression
  | .several members => members
  | expression => [expression]

mutual

/-- Reads an expression. With `plain`, signs that say where output goes end it. -/
def readExpression (plain : Bool) : (fuel : Nat) → Reader Expression
  | 0 => misplaced
  | fuel + 1 => do
    let condition ← readLevel plain 0 fuel
    if ← take? "?" then
      skipLines fuel
      let yes ← readExpression plain fuel
      skipLines fuel
      expect ":"
      skipLines fuel
      let no ← readExpression plain fuel
      return .choice condition yes no
    return condition

/-- Reads an expression whose operators bind at least as a level says. -/
def readLevel (plain : Bool) (level : Nat) : (fuel : Nat) → Reader Expression
  | 0 => misplaced
  | fuel + 1 => do
    if level ≥ 8 then readUnary plain fuel
    else
      let first ← readLevel plain (level + 1) fuel
      let expression ← moreOfLevel plain level first fuel
      match level, expression, (← sign?).bind settingOf? with
      | 5, .place place, some operation =>
        skip
        return .set place operation (← readExpression plain fuel)
      | _, _, _ => return expression

/-- Goes on with operators of a level. -/
def moreOfLevel (plain : Bool) (level : Nat) (first : Expression) : (fuel : Nat) →
    Reader Expression
  | 0 => misplaced
  | fuel + 1 => do
    let goOn (make : Expression → Expression) : Reader Expression := do
      skip
      let second ← readLevel plain (level + 1) fuel
      moreOfLevel plain level (make second) fuel
    let token := (← peek).token
    match level, token with
    | 0, .sign "||" => goOn (.either first)
    | 1, .sign "&&" => goOn (.both first)
    | 2, .word "in" =>
      skip
      match (← peek).token with
      | .name name =>
        note name true
        skip
        moreOfLevel plain level (.within (keysOf first) name) fuel
      | _ => misplaced
    | 3, .sign "~" => goOn (.matching false first)
    | 3, .sign "!~" => goOn (.matching true first)
    | 4, .sign text =>
      match relationOf? text with
      | some relation =>
        if plain ∧ relation = .greater then return first else goOn (.compare relation first)
      | none => return first
    | 5, token =>
      if startsOperand token then
        let second ← readLevel plain 6 fuel
        moreOfLevel plain level (.joined first second) fuel
      else return first
    | 6, .sign "+" => goOn (.compute .plus first)
    | 6, .sign "-" => goOn (.compute .minus first)
    | 7, .sign "*" => goOn (.compute .times first)
    | 7, .sign "/" => goOn (.compute .divide first)
    | 7, .sign "%" => goOn (.compute .modulo first)
    | _, _ => return first

/-- Reads an operand with signs before it. -/
def readUnary (plain : Bool) : (fuel : Nat) → Reader Expression
  | 0 => misplaced
  | fuel + 1 => do
    match ← sign? with
    | some "!" =>
      skip
      return .not (← readUnary plain fuel)
    | some "-" =>
      skip
      return .negative (← readUnary plain fuel)
    | some "+" =>
      skip
      return .positive (← readUnary plain fuel)
    | _ =>
      let base ← readPostfix fuel
      let power ←
        if ← take? "^" then pure (Expression.compute .power base (← readUnary plain fuel))
        else pure base
      if plain then return power else moreRecords power fuel

/-- Goes on with the records of a command. -/
def moreRecords (command : Expression) : (fuel : Nat) → Reader Expression
  | 0 => return command
  | fuel + 1 => do
    match (← get).rest with
    | ⟨.sign "|", _, _⟩ :: ⟨.word "getline", _, _⟩ :: rest =>
      modify fun reading => { reading with rest := rest }
      let target ← readTarget fuel
      moreRecords (.getline .command (some command) target) fuel
    | _ => return command

/-- Reads the place that a record is put into, if there is one. -/
def readTarget : (fuel : Nat) → Reader (Option Place)
  | 0 => return none
  | fuel + 1 => do
    let reads : Bool :=
      match (← peek).token with
      | .name _ => true
      | .sign "$" => true
      | _ => false
    if reads then
      match ← readPrimary fuel with
      | .place place => return some place
      | _ => misplaced
    else return none

/-- Reads an operand with a step behind it. -/
def readPostfix : (fuel : Nat) → Reader Expression
  | 0 => misplaced
  | fuel + 1 => do
    let operand ← readPrimary fuel
    match operand, ← sign? with
    | .place place, some "++" =>
      skip
      return .step place true false
    | .place place, some "--" =>
      skip
      return .step place false false
    | operand, _ => return operand

/-- Reads expressions with commas between them, up to a sign. -/
def readList (closing : String) : (fuel : Nat) → Reader (List Expression)
  | 0 => misplaced
  | fuel + 1 => do
    let first ← readExpression false fuel
    if ← take? "," then
      return first :: (← readList closing fuel)
    expect closing
    return [first]

/-- Reads the arguments of a function. A name alone may be a table. -/
def readArguments : (fuel : Nat) → Reader (List Expression)
  | 0 => misplaced
  | fuel + 1 => do
    let first ←
      match (← get).rest with
      | ⟨.name name, _, _⟩ :: ⟨.sign ",", text, line⟩ :: rest =>
        modify fun reading => { reading with rest := ⟨.sign ",", text, line⟩ :: rest }
        pure (Expression.place (.named name))
      | ⟨.name name, _, _⟩ :: ⟨.sign ")", text, line⟩ :: rest =>
        modify fun reading => { reading with rest := ⟨.sign ")", text, line⟩ :: rest }
        pure (Expression.place (.named name))
      | _ => readExpression false fuel
    if ← take? "," then
      return first :: (← readArguments fuel)
    expect ")"
    return [first]

/-- Reads an operand. -/
def readPrimary : (fuel : Nat) → Reader Expression
  | 0 => misplaced
  | fuel + 1 => do
    let called (name : String) : Reader Expression := do
      skip
      expect "("
      modify fun reading => { reading with calls := name :: reading.calls }
      if ← take? ")" then return .call name []
      return .call name (← readArguments fuel)
    match (← peek).token with
    | .number value =>
      skip
      return .number value
    | .text value =>
      skip
      return .text value
    | .regex source =>
      match regexOf source with
      | .ok regex =>
        skip
        return .regex regex
      | .error reason => fault reason
    | .called name => called name
    | .name name =>
      let isFunction := (← get).functions.any (·.name == name)
      match (← get).rest with
      | _ :: ⟨.sign "(", _, _⟩ :: _ =>
        if isFunction then called name
        else
          note name false
          skip
          return .place (.named name)
      | _ :: ⟨.sign "[", _, _⟩ :: _ =>
        note name true
        skip
        skip
        return .place (.item name (← readList "]" fuel))
      | _ =>
        note name false
        skip
        return .place (.named name)
    | .known name =>
      skip
      let arguments ←
        if (← sign?) = some "(" then
          skip
          if ← take? ")" then pure []
          else if name = "length" then readArguments fuel
          else
            let first ← readExpression false fuel
            if name = "split" then
              expect ","
              match (← peek).token with
              | .name table =>
                note table true
                skip
                let more ← if ← take? "," then readList ")" fuel else
                  expect ")"
                  pure []
                pure (first :: .place (.named table) :: more)
              | _ => misplaced
            else if ← take? "," then pure (first :: (← readList ")" fuel))
            else
              expect ")"
              pure [first]
        else if name = "length" then pure []
        else misplaced
      match knownFunctions.lookup name with
      | some (least, most) =>
        if arguments.length < least ∨ arguments.length > most then fault (.wrongArguments name)
      | none => pure ()
      return .known name arguments
    | .word "getline" =>
      skip
      let target ← readTarget fuel
      if ← take? "<" then
        return .getline .file (some (← readPrimary fuel)) target
      return .getline .input none target
    | .sign "(" =>
      skip
      match ← readList ")" fuel with
      | [single] => return .several [single]
      | members =>
        if ← isWord "in" then return .several members else misplaced
    | .sign "$" =>
      skip
      let index ←
        match ← sign? with
        | some "-" => readUnary false fuel
        | some "+" => readUnary false fuel
        | some "!" => readUnary false fuel
        | _ => readPrimary fuel
      return .place (.field index)
    | .sign "++" =>
      skip
      match ← readPrimary fuel with
      | .place place => return .step place true true
      | _ => misplaced
    | .sign "--" =>
      skip
      match ← readPrimary fuel with
      | .place place => return .step place false true
      | _ => misplaced
    | _ => misplaced

end

/-! ## Statements -/

/-- Takes the end of a statement. A closing brace is one and is left. -/
def endStatement : Reader Unit := do
  match (← peek).token with
  | .lineEnd => skip
  | .sign ";" => skip
  | .sign "\x7d" => return
  | .finish => return
  | _ => misplaced

/-- Whether a statement ends here. -/
def atEnd : Reader Bool := do
  match (← peek).token with
  | .lineEnd => return true
  | .sign ";" => return true
  | .sign "\x7d" => return true
  | .finish => return true
  | _ => return false

/-- The kind of output that a sign stands for. -/
def destinationOf? (text : String) : Option Destination :=
  match text with
  | ">" => some .file
  | ">>" => some .fileEnd
  | "|" => some .command
  | _ => none

/-- Whether the values of an output end here. -/
def atOutputEnd : Reader Bool := do
  if ← atEnd then return true
  return ((← sign?).bind destinationOf?).isSome

/-- Reads expressions with commas between them as far as they go. -/
def readPlainList : (fuel : Nat) → Reader (List Expression)
  | 0 => misplaced
  | fuel + 1 => do
    let first ← readExpression true fuel
    if ← take? "," then
      return first :: (← readPlainList fuel)
    return [first]

/-- Reads the values of an output, which may all stand in parentheses. -/
def readValues (fuel : Nat) : Reader (List Expression) := do
  if ← atOutputEnd then return []
  let before ← get
  if ← take? "(" then
    let values ← readList ")" fuel
    if ← atOutputEnd then return values
    set before
  readPlainList fuel

/-- Reads where an output goes, if that is said. -/
def readDestination (fuel : Nat) : Reader (Option (Destination × Expression)) := do
  match (← sign?).bind destinationOf? with
  | some destination =>
    skip
    return some (destination, ← readExpression false fuel)
  | none => return none

/-- Reads the values of an output and where it goes. -/
def readOutput (fuel : Nat) : Reader (List Expression × Option (Destination × Expression)) := do
  let values ← readValues fuel
  return (values, ← readDestination fuel)

/-- Reads the statement of a loop. -/
def inLoop {α : Type} (body : Reader α) : Reader α := do
  modify fun reading => { reading with loops := reading.loops + 1 }
  let result ← body
  modify fun reading => { reading with loops := reading.loops - 1 }
  return result

/-- Reads an expression that may be left out. -/
def readOptional (fuel : Nat) : Reader (Option Expression) := do
  if ← atEnd then return none
  return some (← readExpression false fuel)

/-- Reads a statement that is no loop and has no others in it. -/
def readSimple (fuel : Nat) : Reader Statement := do
  let lexeme ← peek
  match lexeme.token with
  | .word "print" =>
    skip
    let (values, target) ← readOutput fuel
    return .print values target
  | .word "printf" =>
    skip
    let (values, target) ← readOutput fuel
    if values.isEmpty then misplaced
    return .format values target
  | .word "delete" =>
    skip
    match (← peek).token with
    | .name name =>
      note name true
      skip
      if ← take? "[" then return .erase name (some (← readList "]" fuel))
      return .erase name none
    | _ => misplaced
  | .word "next" =>
    if !(← get).hasRecord then fault (.noRecord "next")
    skip
    return .next
  | .word "nextfile" =>
    if !(← get).hasRecord then fault (.noRecord "nextfile")
    skip
    return .nextFile
  | .word "exit" =>
    skip
    return .exit (← readOptional fuel)
  | .word "return" =>
    if !(← get).inFunction then fault .noFunction
    skip
    return .answer (← readOptional fuel)
  | .word "break" =>
    if (← get).loops = 0 then fault (.noLoop "break")
    skip
    return .leave
  | .word "continue" =>
    if (← get).loops = 0 then fault (.noLoop "continue")
    skip
    return .goOn
  | _ => return .expression (← readExpression false fuel)

mutual

/-- Reads a statement, with its end. -/
def readStatement : (fuel : Nat) → Reader Statement
  | 0 => misplaced
  | fuel + 1 => do
    skipLines fuel
    let condition : Reader Expression := do
      expect "("
      let condition ← readExpression false fuel
      expect ")"
      return condition
    match (← peek).token with
    | .sign ";" =>
      skip
      return .block []
    | .sign "\x7b" =>
      skip
      readBlock fuel
    | .word "if" =>
      skip
      let condition ← condition
      let yes ← readStatement fuel
      let before ← get
      skipEnds fuel
      if ← isWord "else" then
        skip
        return .branch condition yes (← readStatement fuel)
      set before
      return .branch condition yes (.block [])
    | .word "while" =>
      skip
      let condition ← condition
      if ← take? ";" then return .loop condition (.block [])
      return .loop condition (← inLoop (readStatement fuel))
    | .word "do" =>
      skip
      let body ← inLoop (readStatement fuel)
      skipEnds fuel
      if !(← isWord "while") then misplaced
      skip
      let condition ← condition
      endStatement
      return .loopAfter body condition
    | .word "for" =>
      skip
      expect "("
      match (← get).rest with
      | ⟨.name name, _, _⟩ :: ⟨.word "in", _, _⟩ :: ⟨.name table, _, _⟩ :: ⟨.sign ")", _, _⟩ ::
          rest =>
        note name false
        note table true
        modify fun reading => { reading with rest := rest }
        return .each name table (← inLoop (readStatement fuel))
      | _ =>
        let start ← if (← sign?) = some ";" then pure (.block []) else readSimple fuel
        expect ";"
        let condition ← if (← sign?) = some ";" then pure none
          else pure (some (← readExpression false fuel))
        expect ";"
        let step ← if (← sign?) = some ")" then pure (.block []) else readSimple fuel
        expect ")"
        return .count start condition step (← inLoop (readStatement fuel))
    | _ =>
      let statement ← readSimple fuel
      endStatement
      return statement

/-- Reads statements up to a closing brace. -/
def readBlock : (fuel : Nat) → Reader Statement
  | 0 => misplaced
  | fuel + 1 => do
    skipEnds fuel
    if ← take? "\x7d" then return .block []
    let first ← readStatement fuel
    match ← readBlock fuel with
    | .block rest => return .block (first :: rest)
    | other => return .block [first, other]

end

/-- Reads the names of the arguments of a function. -/
def readParameters : (fuel : Nat) → Reader (List String)
  | 0 => misplaced
  | fuel + 1 => do
    match (← peek).token with
    | .name name =>
      skip
      if ← take? "," then return name :: (← readParameters fuel)
      expect ")"
      return [name]
    | _ => misplaced

/-- Reads a function behind the word for it. -/
def readFunction (fuel : Nat) : Reader Unit := do
  let name ←
    match (← peek).token with
    | .called name => pure name
    | .name name => pure name
    | _ => misplaced
  if (← get).functions.any (·.name == name) then fault (.again name)
  skip
  expect "("
  let parameters ← if ← take? ")" then pure [] else readParameters fuel
  skipLines fuel
  modify fun reading =>
    { reading with
      parameters := parameters.map fun name => (name, none)
      inFunction := true
      functions := ⟨name, parameters, .block []⟩ :: reading.functions }
  expect "\x7b"
  let body ← readBlock fuel
  modify fun reading =>
    { reading with
      parameters := [], inFunction := false
      functions := ⟨name, parameters, body⟩ ::
        reading.functions.filter (·.name ≠ name) }

/-- Reads a rule. -/
def readRule (fuel : Nat) : Reader Rule := do
  let action (hasRecord : Bool) : Reader Statement := do
    expect "\x7b"
    modify fun reading => { reading with hasRecord := hasRecord }
    let body ← readBlock fuel
    modify fun reading => { reading with hasRecord := true }
    return body
  match (← peek).token with
  | .word "BEGIN" =>
    skip
    return ⟨.start, ← action false⟩
  | .word "END" =>
    skip
    return ⟨.stop, ← action false⟩
  | .sign "\x7b" => return ⟨.always, ← action true⟩
  | _ =>
    let first ← readExpression false fuel
    let pattern ←
      if ← take? "," then pure (Pattern.between first (← readExpression false fuel))
      else pure (Pattern.when first)
    if (← sign?) = some "\x7b" then return ⟨pattern, ← action true⟩
    endStatement
    return ⟨pattern, .print [] none⟩

/-- Reads rules and functions. -/
def readRules : (fuel : Nat) → Reader (List Rule)
  | 0 => return []
  | fuel + 1 => do
    skipEnds fuel
    match (← peek).token with
    | .finish => return []
    | .word "function" =>
      skip
      readFunction fuel
      readRules fuel
    | _ =>
      let rule ← readRule fuel
      return rule :: (← readRules fuel)

/-- Reads a program. -/
def readProgram (fuel : Nat) : Reader Program := do
  let rules ← readRules fuel
  let reading ← get
  let missing := reading.calls.reverse.find? fun name =>
    !reading.functions.any (·.name == name)
  match missing with
  | some name => fault (.undefined name)
  | none => return { rules := rules, functions := reading.functions }

end Reader

/-- The program that a text writes, or what is wrong with it, each time with the line. -/
def Program.read (text : List Char) : Except (List (Fault × Nat)) Program :=
  let lexemes := tokensOf text
  match (Reader.readProgram (20 * lexemes.length + 50)).run { rest := lexemes } with
  | .ok (program, _) => .ok program
  | .error (fault, line) =>
    let more : List (Fault × Nat) :=
      match fault, lexemes.getLast? with
      | .openParenthesis "end of line", some ⟨.wrong .openBrace, _, line⟩ => [(.openBrace, line)]
      | _, _ => []
    .error ((fault, line) :: more)

end HistoryExpansion.Shell.Awk
