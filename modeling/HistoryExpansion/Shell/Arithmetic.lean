import HistoryExpansion.Number
import HistoryExpansion.Shell.Word

/-!
# Arithmetic of the shell

Expressions over signed words of 64 bits. A variable that is unset or empty counts as zero; an
assignment within an expression is handed back with the value. In the extended dialect there are
powers, steps by one and items of lists, and the value of a variable is an expression of its own.
-/

namespace HistoryExpansion.Shell

/-- An operator between two values. -/
inductive Operator where
  /-- A sum. -/
  | add
  /-- A difference. -/
  | sub
  /-- A product. -/
  | mul
  /-- A quotient, cut toward zero. -/
  | div
  /-- What is left of a division. -/
  | rem
  /-- A shift to the left. -/
  | shiftLeft
  /-- A shift to the right that keeps the sign. -/
  | shiftRight
  /-- Whether the first value is less. -/
  | less
  /-- Whether the first value is at most the second. -/
  | atMost
  /-- Whether the values are the same. -/
  | equal
  /-- Whether the values differ. -/
  | different
  /-- The bits of both. -/
  | bitAnd
  /-- The bits of just one. -/
  | bitXor
  /-- The bits of any. -/
  | bitOr
  /-- A power. -/
  | power
  deriving DecidableEq, Repr

/-- Why an expression has no value. -/
inductive ArithmeticFault where
  /-- A value is missing; the text is what follows. -/
  | noOperand (rest : String)
  /-- A colon is missing. -/
  | noColon (rest : String)
  /-- A parenthesis is missing. -/
  | noParenthesis (rest : String)
  /-- Something stands behind the expression. -/
  | surplus (rest : String)
  /-- A division by zero; the text starts at the divisor. -/
  | zeroDivisor (rest : String)
  /-- A power with a negative exponent. -/
  | negativePower (rest : String)
  /-- A value that is no variable is given another value. -/
  | notVariable (rest : String)
  /-- A text is no number. -/
  | notNumber (text : String)
  /-- A digit is too great for its base. -/
  | badDigit (number : String)
  /-- There is no such base. -/
  | badBase (number : String)
  /-- The values of variables refer to each other without an end. -/
  | tooDeep (name : String)
  /-- A quotient that is no word, which ends the process. -/
  | overflow
  /-- The same in the value of a variable. -/
  | within (text : String) (fault : ArithmeticFault)
  deriving Repr

/-- The wording of a fault in the plain dialect. -/
def ArithmeticFault.plainMessage (text : String) : ArithmeticFault → String
  | notNumber number => "Illegal number: " ++ number
  | fault =>
    let reason := match fault with
      | noColon _ => "expecting ':'"
      | noParenthesis _ => "expecting ')'"
      | surplus _ => "expecting EOF"
      | zeroDivisor _ => "division by zero"
      | _ => "expecting primary"
    "arithmetic expression: " ++ reason ++ ": \"" ++ text ++ "\""

/-- The operator that a text ends in, with the blanks behind it. -/
def lastOperator (text : String) : String :=
  let reversed := text.toList.reverse
  let blanks := reversed.takeWhile fun c => c == ' ' || c == '\t'
  let signs := (reversed.drop blanks.length).takeWhile fun c => "+-*/%=<>!&|^~?:,".toList.contains c
  String.ofList (blanks ++ signs).reverse

/-- The wording of a fault in the extended dialect. -/
def ArithmeticFault.extendedMessage (text : String) : ArithmeticFault → String
  | within inner fault => fault.extendedMessage inner
  | noOperand rest =>
    let token := if rest = "" then lastOperator text else rest
    let reason := if token.endsWith ":" then "expression expected"
      else "syntax error: operand expected"
    worded reason token
  | noColon rest =>
    worded (betweenMarks ":" ++ " expected for conditional expression")
      (if rest = "" then String.ofList (text.toList.reverse.takeWhile isNameChar).reverse else rest)
  | noParenthesis rest => worded ("missing " ++ betweenMarks ")") rest
  | surplus rest =>
    if (rest.toList.head?.map isNameChar).getD false then worded "syntax error in expression" rest
    else worded "syntax error: invalid arithmetic operator" rest
  | zeroDivisor rest => worded "division by 0" rest
  | negativePower rest => worded "exponent less than 0" rest
  | notVariable rest => worded "attempted assignment to non-variable" rest
  | notNumber number => worded "syntax error: operand expected" number
  | badDigit number => worded "value too great for base" number
  | badBase number => worded "invalid arithmetic base" number
  | tooDeep name => worded "expression recursion level exceeded" name
  | overflow => text
where
  /-- A reason with the place that it was found at. -/
  worded (reason token : String) : String :=
    text ++ ": " ++ reason ++ " (error token is \"" ++ token ++ "\")"

/-- A variable, or an item of a list. -/
structure Cell where
  /-- The name of the variable. -/
  name : String
  /-- The index of the item. -/
  index : Option String := none
  deriving DecidableEq, Repr

/-- An expression. -/
inductive Expr where
  /-- A number. -/
  | number (value : Int64)
  /-- A variable. -/
  | named (name : String)
  /-- An item of a list, by the text of its index and by what that is as an expression. -/
  | item (name index : String) (position : Expr)
  /-- The value with its sign changed. -/
  | negate (operand : Expr)
  /-- The value with every bit changed. -/
  | invert (operand : Expr)
  /-- Whether the value is zero. -/
  | isZero (operand : Expr)
  /-- Two values joined; the text starts at the second. -/
  | binary (operator : Operator) (left right : Expr) (rest : String)
  /-- Whether both values are not zero; the second counts only if the first is not. -/
  | both (left right : Expr)
  /-- Whether any value is not zero; the second counts only if the first is. -/
  | either (left right : Expr)
  /-- One of two values, by whether another is zero. -/
  | choice (condition success failure : Expr)
  /-- A value that is given to a variable, joined with its old value first. -/
  | assign (target : Expr) (operator : Option Operator) (operand : Expr) (rest : String)
  /-- The value of a variable that is then one step up or down; with the flag the value is the one
  before. -/
  | step (target : Expr) (up keepsOld : Bool)
  /-- The second of two values. -/
  | second (first last : Expr)
  deriving Repr

/-! ## Reading -/

/-- Drops blanks at the start. -/
def dropSpace (text : List Char) : List Char :=
  text.dropWhile fun c => c == ' ' || c == '\t' || c == '\n'

/-- The value of a digit in a base of at most thirty-six. -/
def digitValue? (base : Nat) (c : Char) : Option Nat :=
  let value :=
    if '0' ≤ c ∧ c ≤ '9' then c.toNat - 0x30
    else if 'a' ≤ c ∧ c ≤ 'z' then c.toNat - 0x61 + 10
    else if 'A' ≤ c ∧ c ≤ 'Z' then c.toNat - 0x41 + 10
    else base
  if value < base then some value else none

/-- Takes the digits of a number. -/
def takeDigits (base : Nat) : (value : Nat) → List Char → Nat × List Char
  | value, [] => (value, [])
  | value, c :: rest =>
    match digitValue? base c with
    | some digit => takeDigits base (value * base + digit) rest
    | none => (value, c :: rest)

/-- Takes a number: in base sixteen behind `0x`, in base eight behind a zero, else in base ten. -/
def takeNumber (text : List Char) : Nat × List Char :=
  match text with
  | '0' :: 'x' :: rest => takeDigits 16 0 rest
  | '0' :: 'X' :: rest => takeDigits 16 0 rest
  | '0' :: rest => takeDigits 8 0 rest
  | text => takeDigits 10 0 text

/-- A natural number as a word; one that is too large becomes the largest. -/
def saturated (value : Nat) : Int64 :=
  Int64.ofInt (min value (2 ^ 63 - 1))

/-- The value of a digit in a base of up to sixty-four, where small and capital letters differ. -/
def wideDigit? (base : Nat) (c : Char) : Option Nat :=
  if base ≤ 36 then digitValue? base c
  else
    let value :=
      if '0' ≤ c ∧ c ≤ '9' then c.toNat - 0x30
      else if 'a' ≤ c ∧ c ≤ 'z' then c.toNat - 0x61 + 10
      else if 'A' ≤ c ∧ c ≤ 'Z' then c.toNat - 0x41 + 36
      else if c = '@' then 62
      else if c = '_' then 63
      else base
    if value < base then some value else none

/-- The number that a text is in the extended dialect: as in the plain one, or in the base that
stands before a number sign. -/
def wideNumber (text : List Char) : Except ArithmeticFault Int64 :=
  let (base, digits) :=
    match text with
    | '0' :: 'x' :: rest => (16, rest)
    | '0' :: 'X' :: rest => (16, rest)
    | '0' :: c :: rest =>
      if text.contains '#' then baseAndDigits text else (8, c :: rest)
    | text => baseAndDigits text
  if base < 2 ∨ base > 64 then .error (.badBase (String.ofList text))
  else
    match digits.mapM (wideDigit? base) with
    | none => .error (.badDigit (String.ofList text))
    | some values =>
      .ok (Int64.ofInt (values.foldl (fun value digit => value * base + digit) 0 : Nat))
where
  /-- The base and the digits of a text. -/
  baseAndDigits (text : List Char) : Nat × List Char :=
    let first := text.takeWhile (· ≠ '#')
    match text.drop first.length with
    | [] => (10, text)
    | _ :: digits => (decimal first, digits)

/-- The operators with their levels, from loosest to tightest. -/
def levels : List (List (String × Operator)) :=
  [[("|", .bitOr)], [("^", .bitXor)], [("&", .bitAnd)], [("==", .equal), ("!=", .different)],
    [("<=", .atMost), (">=", .atMost), ("<", .less), (">", .less)],
    [("<<", .shiftLeft), (">>", .shiftRight)], [("+", .add), ("-", .sub)],
    [("*", .mul), ("/", .div), ("%", .rem)]]

/-- The operators that can be joined with an assignment. -/
def assigning : List (String × Option Operator) :=
  [("<<=", some .shiftLeft), (">>=", some .shiftRight), ("+=", some .add), ("-=", some .sub),
    ("*=", some .mul), ("/=", some .div), ("%=", some .rem), ("&=", some .bitAnd),
    ("^=", some .bitXor), ("|=", some .bitOr), ("=", none)]

/-- Whether an operator that a text starts with is in truth a longer one. -/
def isLonger (dialect : Dialect) (operator : String) (rest : List Char) : Bool :=
  match operator, rest with
  | "|", '|' :: _ => true
  | "&", '&' :: _ => true
  | "<", '<' :: _ => true
  | ">", '>' :: _ => true
  | "*", '*' :: _ => dialect.isExtended
  | "==", _ => false
  | "!=", _ => false
  | "<=", _ => false
  | ">=", _ => false
  | "<", _ => false
  | ">", _ => false
  | _, '=' :: _ => true
  | _, _ => false

/-- What is wrong with a condition. -/
abbrev Complaint := String

/-- What reading gives: an expression and what follows it. -/
abbrev Found := Except ArithmeticFault (Expr × List Char)

/-- The operator of a level that a text starts with. -/
def operatorAt? (dialect : Dialect) (level : List (String × Operator)) (text : List Char) :
    Option (String × Operator × List Char) :=
  (level.find? fun (spelling, _) =>
      spelling.toList.isPrefixOf text &&
        !isLonger dialect spelling (text.drop spelling.length)).map
    fun (spelling, operator) => (spelling, operator, text.drop spelling.length)

/-- The assignment that follows a name. -/
def assignmentAt? (text : List Char) : Option (Option Operator × List Char) :=
  match assigning.find? fun (spelling, _) => spelling.toList.isPrefixOf text with
  | none => none
  | some (spelling, operator) =>
    let rest := text.drop spelling.length
    if spelling = "=" ∧ rest.head? = some '=' then none else some (operator, rest)

/-- Takes the text of an index up to its closing bracket. -/
def takeIndexText : (depth : Nat) → (found : List Char) → List Char →
    Option (List Char × List Char)
  | _, _, [] => none
  | 0, found, ']' :: rest => some (found.reverse, rest)
  | depth + 1, found, ']' :: rest => takeIndexText depth (']' :: found) rest
  | depth, found, '[' :: rest => takeIndexText (depth + 1) ('[' :: found) rest
  | depth, found, c :: rest => takeIndexText depth (c :: found) rest

mutual

/-- Reads an expression, or several of which the last one counts. -/
def readAll (dialect : Dialect) : (fuel : Nat) → List Char → Found
  | 0, text => .error (.noOperand (String.ofList text))
  | fuel + 1, text => do
    let (first, rest) ← readExpr dialect fuel text
    match dialect, dropSpace rest with
    | .extended, ',' :: rest =>
      let (last, rest) ← readAll dialect fuel rest
      return (.second first last, rest)
    | _, rest => return (first, rest)

/-- Reads an assignment or a choice. -/
def readExpr (dialect : Dialect) : (fuel : Nat) → List Char → Found
  | 0, text => .error (.noOperand (String.ofList text))
  | fuel + 1, text => do
    let text := dropSpace text
    let assignment :=
      match readTarget? dialect fuel text with
      | none => none
      | some (target, rest) =>
        (assignmentAt? (dropSpace rest)).map fun (operator, rest) => (target, operator, rest)
    match assignment with
    | some (target, operator, rest) =>
      let (operand, behind) ← readExpr dialect fuel rest
      return (.assign target operator operand (String.ofList (dropSpace rest)), behind)
    | none =>
      let (condition, rest) ← readEither dialect fuel text
      match dropSpace rest with
      | '?' :: rest =>
        let (success, rest) ← readExpr dialect fuel rest
        match dropSpace rest with
        | ':' :: rest =>
          let (failure, rest) ← readExpr dialect fuel rest
          return (.choice condition success failure, rest)
        | rest => .error (.noColon (String.ofList rest))
      | rest =>
        if dialect.isExtended ∧ (assignmentAt? rest).isSome then
          .error (.notVariable (String.ofList rest))
        else return (condition, rest)

/-- Reads a variable or an item of a list, if one comes next. -/
def readTarget? (dialect : Dialect) : (fuel : Nat) → List Char → Option (Expr × List Char)
  | 0, _ => none
  | fuel + 1, text =>
    let name := text.takeWhile isNameChar
    if !isName name then none
    else
      match dialect, text.drop name.length with
      | .extended, '[' :: rest =>
        (takeIndexText 0 [] rest).map fun (index, behind) =>
          let position := match readAll dialect fuel index with
            | .ok (position, _) => position
            | .error _ => .number 0
          (.item (String.ofList name) (String.ofList index) position, behind)
      | _, rest => some (.named (String.ofList name), rest)

/-- Reads values of which any must not be zero. -/
def readEither (dialect : Dialect) : (fuel : Nat) → List Char → Found
  | 0, text => .error (.noOperand (String.ofList text))
  | fuel + 1, text => do
    let (left, rest) ← readBoth dialect fuel text
    match dropSpace rest with
    | '|' :: '|' :: rest =>
      let (right, rest) ← readEither dialect fuel rest
      return (.either left right, rest)
    | rest => return (left, rest)

/-- Reads values all of which must not be zero. -/
def readBoth (dialect : Dialect) : (fuel : Nat) → List Char → Found
  | 0, text => .error (.noOperand (String.ofList text))
  | fuel + 1, text => do
    let (left, rest) ← readLevel dialect fuel levels text
    match dropSpace rest with
    | '&' :: '&' :: rest =>
      let (right, rest) ← readBoth dialect fuel rest
      return (.both left right, rest)
    | rest => return (left, rest)

/-- Reads operators of some levels. -/
def readLevel (dialect : Dialect) : (fuel : Nat) → List (List (String × Operator)) →
    List Char → Found
  | 0, _, text => .error (.noOperand (String.ofList text))
  | fuel + 1, [], text => readPower dialect fuel text
  | fuel + 1, level :: tighter, text => do
    let (left, rest) ← readLevel dialect fuel tighter text
    readFurther dialect fuel level tighter left rest

/-- Reads what is joined to a value by the operators of a level. -/
def readFurther (dialect : Dialect) : (fuel : Nat) → List (String × Operator) →
    List (List (String × Operator)) → Expr → List Char → Found
  | 0, _, _, _, text => .error (.noOperand (String.ofList text))
  | fuel + 1, level, tighter, left, rest =>
    match operatorAt? dialect level (dropSpace rest) with
    | none => .ok (left, rest)
    | some (spelling, operator, rest) => do
      let (right, behind) ← readLevel dialect fuel tighter rest
      let spot := String.ofList (dropSpace rest)
      let joined :=
        if spelling = ">" ∨ spelling = ">=" then Expr.binary operator right left spot
        else .binary operator left right spot
      readFurther dialect fuel level tighter joined behind

/-- Reads a power. -/
def readPower (dialect : Dialect) : (fuel : Nat) → List Char → Found
  | 0, text => .error (.noOperand (String.ofList text))
  | fuel + 1, text => do
    let (base, rest) ← readOperand dialect fuel text
    match dialect, dropSpace rest with
    | .extended, '*' :: '*' :: rest =>
      if rest.head? = some '=' then return (base, '*' :: '*' :: rest)
      let (exponent, behind) ← readPower dialect fuel rest
      let spot := (dropSpace rest).dropWhile (· = '-')
      return (.binary .power base exponent (String.ofList spot), behind)
    | _, _ => return (base, rest)

/-- Reads a value with the signs in front of it. -/
def readOperand (dialect : Dialect) : (fuel : Nat) → List Char → Found
  | 0, text => .error (.noOperand (String.ofList text))
  | fuel + 1, text =>
    let text := dropSpace text
    let stepped (up : Bool) : Option (Expr × List Char) :=
      if dialect.isExtended then
        (readTarget? dialect fuel (dropSpace (text.drop 2))).map fun (target, rest) =>
          (.step target up false, rest)
      else none
    let signed (wrap : Expr → Expr) (rest : List Char) : Found := do
      let (operand, rest) ← readOperand dialect fuel rest
      return (wrap operand, rest)
    match text with
    | '-' :: rest =>
      match if rest.head? = some '-' then stepped false else none with
      | some found => .ok found
      | none => signed .negate rest
    | '+' :: rest =>
      match if rest.head? = some '+' then stepped true else none with
      | some found => .ok found
      | none => signed id rest
    | '~' :: rest => signed .invert rest
    | '!' :: rest => signed .isZero rest
    | '(' :: rest => do
      let (inner, rest) ← readAll dialect fuel rest
      match dropSpace rest with
      | ')' :: rest => return (inner, rest)
      | rest => .error (.noParenthesis (String.ofList rest))
    | c :: rest =>
      if isDigit c then
        match dialect with
        | .plain =>
          let (value, rest) := takeNumber (c :: rest)
          .ok (.number (saturated value), rest)
        | .extended => do
          let digits := text.takeWhile fun c => isNameChar c || c == '#' || c == '@'
          return (.number (← wideNumber digits), text.drop digits.length)
      else
        match readTarget? dialect fuel text with
        | some (target, rest) =>
          match dialect, dropSpace rest with
          | .extended, '+' :: '+' :: rest => .ok (.step target true true, rest)
          | .extended, '-' :: '-' :: rest => .ok (.step target false true, rest)
          | _, _ => .ok (target, rest)
        | none => .error (.noOperand (String.ofList text))
    | [] => .error (.noOperand "")

end

/-! ## Values -/

/-- The number one for what holds and zero for what does not. -/
def ofTruth (holds : Bool) : Int64 :=
  if holds then 1 else 0

/-- The least word, whose sign cannot be changed. -/
def leastWord : Int64 := Int64.ofInt (-(2 ^ 63))

/-- Two values joined. -/
def Operator.apply (dialect : Dialect) (rest : String) :
    Operator → Int64 → Int64 → Except ArithmeticFault Int64
  | add, a, b => .ok (a + b)
  | sub, a, b => .ok (a - b)
  | mul, a, b => .ok (a * b)
  | div, a, b =>
    if b = 0 then .error (.zeroDivisor rest)
    else if dialect = .plain ∧ a = leastWord ∧ b = -1 then .error .overflow
    else .ok (a / b)
  | rem, a, b =>
    if b = 0 then .error (.zeroDivisor rest)
    else if dialect = .plain ∧ a = leastWord ∧ b = -1 then .error .overflow
    else .ok (a % b)
  | shiftLeft, a, b => .ok (a <<< b)
  | shiftRight, a, b => .ok (a >>> b)
  | less, a, b => .ok (ofTruth (a < b))
  | atMost, a, b => .ok (ofTruth (a ≤ b))
  | equal, a, b => .ok (ofTruth (a = b))
  | different, a, b => .ok (ofTruth (a ≠ b))
  | bitAnd, a, b => .ok (a &&& b)
  | bitXor, a, b => .ok (a ^^^ b)
  | bitOr, a, b => .ok (a ||| b)
  | power, a, b =>
    if b < 0 then .error (.negativePower rest)
    else .ok (raised a b.toInt.toNat)
where
  /-- A power of a word. Only so many low bits of it count, so the factors are squared on the way.
  -/
  raised (a : Int64) (exponent : Nat) : Int64 :=
    ((List.range 64).foldl
      (fun (product, square) i =>
        (if exponent.testBit i then product * square else product, square * square))
      ((1 : Int64), a)).1

/-- The number that the text of a variable is: blanks, a sign, digits and nothing behind them. -/
def numberOf (text : String) : Except Complaint Int64 :=
  let chars := dropSpace text.toList
  let (negative, digits) :=
    match chars with
    | '-' :: rest => (true, rest)
    | '+' :: rest => (false, rest)
    | rest => (false, rest)
  let (value, rest) := takeNumber digits
  if text = "" then .ok 0
  else if !((digits.head?.map isDigit).getD false) || !(dropSpace rest).isEmpty then
    .error ("Illegal number: " ++ text)
  else .ok (if !negative then saturated value else if value < 2 ^ 63 then -(saturated value)
    else leastWord)

/-- The variables that an expression has given values to, newest first. -/
abbrev Given := List (Cell × Int64)

/-- What an expression is evaluated in. -/
structure Surroundings where
  /-- The dialect. -/
  dialect : Dialect
  /-- The texts of variables and of items. -/
  text? : Cell → Option String
  /-- The variables whose items have keys. -/
  hasKeys : String → Bool

/-- The value of an expression, with the variables that it gives values to. `number` says what the
text of a variable stands for. -/
def Expr.value (around : Surroundings) (number : (name text : String) → Given →
    Except ArithmeticFault (Int64 × Given)) : Expr → Given →
    Except ArithmeticFault (Int64 × Given)
  | .number value, given => .ok (value, given)
  | named name, given => look ⟨name, none⟩ given
  | item name index position, given => do
    let (cell, given) ←
      if around.hasKeys name then .ok ((⟨name, some index⟩ : Cell), given)
      else do
        let (place, given) ← position.value around number given
        .ok (⟨name, some (toString place.toInt)⟩, given)
    look cell given
  | negate operand, given => do
    let (a, given) ← operand.value around number given
    return (-a, given)
  | invert operand, given => do
    let (a, given) ← operand.value around number given
    return (~~~a, given)
  | isZero operand, given => do
    let (a, given) ← operand.value around number given
    return (ofTruth (a = 0), given)
  | binary operator left right rest, given => do
    let (a, given) ← left.value around number given
    let (b, given) ← right.value around number given
    return (← operator.apply around.dialect rest a b, given)
  | both left right, given => do
    let (a, given) ← left.value around number given
    if a = 0 then return (0, given)
    let (b, given) ← right.value around number given
    return (ofTruth (b ≠ 0), given)
  | either left right, given => do
    let (a, given) ← left.value around number given
    if a ≠ 0 then return (1, given)
    let (b, given) ← right.value around number given
    return (ofTruth (b ≠ 0), given)
  | choice condition success failure, given => do
    let (a, given) ← condition.value around number given
    if a ≠ 0 then success.value around number given else failure.value around number given
  | assign (named name) operator operand rest, given => do
    let (b, given) ← operand.value around number given
    store ⟨name, none⟩ operator b rest given
  | assign (item name index position) operator operand rest, given => do
    let (cell, given) ←
      if around.hasKeys name then .ok ((⟨name, some index⟩ : Cell), given)
      else do
        let (place, given) ← position.value around number given
        .ok (⟨name, some (toString place.toInt)⟩, given)
    let (b, given) ← operand.value around number given
    store cell operator b rest given
  | assign _ _ _ rest, _ => .error (.notVariable rest)
  | step (named name) up keepsOld, given => bump ⟨name, none⟩ up keepsOld given
  | step (item name index position) up keepsOld, given => do
    let (cell, given) ←
      if around.hasKeys name then .ok ((⟨name, some index⟩ : Cell), given)
      else do
        let (place, given) ← position.value around number given
        .ok (⟨name, some (toString place.toInt)⟩, given)
    bump cell up keepsOld given
  | step _ _ _, _ => .error (.notVariable "")
  | second first last, given => do
    let (_, given) ← first.value around number given
    last.value around number given
where
  /-- The value of a variable or of an item. -/
  look (cell : Cell) (given : Given) : Except ArithmeticFault (Int64 × Given) :=
    match given.lookup cell with
    | some value => .ok (value, given)
    | none => number cell.name ((around.text? cell).getD "") given
  /-- Gives a variable or an item a value, joined with the old one first. -/
  store (cell : Cell) (operator : Option Operator) (b : Int64) (rest : String) (given : Given) :
      Except ArithmeticFault (Int64 × Given) := do
    let (result, given) ←
      match operator with
      | none => pure (b, given)
      | some operator =>
        let (a, given) ← look cell given
        pure (← operator.apply around.dialect rest a b, given)
    return (result, (cell, result) :: given)
  /-- Takes a variable or an item one step up or down. -/
  bump (cell : Cell) (up keepsOld : Bool) (given : Given) :
      Except ArithmeticFault (Int64 × Given) := do
    let (old, given) ← look cell given
    let new := if up then old + 1 else old - 1
    return (if keepsOld then old else new, (cell, new) :: given)

/-- The value of the text of an expression, where the values of variables are expressions of their
own down to so many levels. -/
def evaluateDeep (around : Surroundings) : (levels : Nat) → (text : String) → Given →
    Except ArithmeticFault (Int64 × Given)
  | levels, text, given =>
    let chars := dropSpace (text.toList.filter fun c => around.dialect = .plain ∨ c ≠ '"')
    if chars.isEmpty then .ok (0, given)
    else do
      let (expr, rest) ← readAll around.dialect (25 * chars.length + 25) chars
      if !(dropSpace rest).isEmpty then
        .error (.surplus (String.ofList (dropSpace rest)))
      else
        let number (name text : String) (given : Given) :
            Except ArithmeticFault (Int64 × Given) :=
          match around.dialect with
          | .plain =>
            match numberOf text with
            | .ok value => .ok (value, given)
            | .error _ => .error (.notNumber text)
          | .extended =>
            match levels with
            | 0 => .error (.tooDeep name)
            | levels + 1 =>
              match evaluateDeep around levels text given with
              | .ok found => .ok found
              | .error fault => .error (.within text fault)
        expr.value around number given

/-- The greatest number of variables whose values refer to each other. -/
def deepestValue : Nat := 200

/-- The value of the text of an expression. Nothing but blanks is zero. -/
def evaluate (around : Surroundings) (text : String) :
    Except ArithmeticFault (Int64 × Given) :=
  evaluateDeep around deepestValue text []

end HistoryExpansion.Shell
