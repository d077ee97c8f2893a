import HistoryExpansion.Number
import HistoryExpansion.Shell.Token
import HistoryExpansion.Text.Blank

/-!
# Scripts

The text of a command is a script: lines of commands, each of which is run before the next one is
read. A line may take up several lines of the text, as a loop does. Where a line cannot be read the
script ends, and what is wrong is said after the lines before it have been run.
-/

namespace HistoryExpansion.Shell

/-- Why a command text cannot be read, with the line where it was found. -/
structure Misreading where
  /-- The line, counted from one. -/
  line : Nat
  /-- What is wrong, in one message or more. -/
  reasons : List String
  deriving DecidableEq, Repr

/-! ## Steps of reading -/

/-- What is left to be read. -/
structure Unread where
  /-- The dialect. -/
  dialect : Dialect
  /-- The tokens. -/
  tokens : List Placed
  /-- The texts of the redirections among them. -/
  texts : List HereText
  /-- The lines of the text. -/
  lines : List String
  /-- The names that stand for other texts at the start of commands. -/
  aliases : List (String × String) := []
  /-- What is to be said of the text, with the lines where it was found. -/
  warnings : List (Nat × String) := []
  /-- The word that was taken last. -/
  latest : Word := []

/-- A step of reading: it takes tokens away and gives what they say. -/
abbrev Reading := StateT Unread (Except Misreading)

/-- The next token, which stays. -/
def peek : Reading (Option Token) := do
  return (← get).tokens.head?.map Placed.token

/-- Takes the next token away. -/
def skip : Reading Unit :=
  modify fun unread =>
    match unread.tokens with
    | [] => unread
    | ⟨_, .word word⟩ :: rest => { unread with tokens := rest, latest := word }
    | _ :: rest => { unread with tokens := rest }

/-- Takes line breaks away. -/
def skipNewlines : Reading Unit :=
  modify fun unread =>
    let isBreak (placed : Placed) : Bool :=
      match placed.token with
      | .newline => true
      | _ => false
    { unread with tokens := unread.tokens.dropWhile isBreak }

/-- The dialect. -/
def dialectHere : Reading Dialect := do
  return (← get).dialect

/-- The line of the next token, or of the end. -/
def lineHere : Reading Nat := do
  let unread ← get
  return (unread.tokens.head?.map Placed.line).getD unread.lines.length

/-- Fails for reasons. -/
def misread {α : Type} (reasons : List String) : Reading α := do
  throw ⟨← lineHere, reasons⟩

/-- Fails at a line for reasons, and shows the line. -/
def misreadLine {α : Type} (line : Nat) (reasons : List String) : Reading α := do
  let text := ((← get).lines[line - 1]?).getD ""
  throw ⟨line, reasons ++ [betweenMarks text]⟩

/-- The words that stand for parts of commands. -/
def reserved : List String :=
  ["!", "case", "do", "done", "elif", "else", "esac", "fi", "for", "if", "then", "until", "while",
    "in", "\x7b", "\x7d"]

/-- The reserved words that end a list of commands. -/
def closing : List String :=
  ["do", "done", "elif", "else", "esac", "fi", "then", "\x7d"]

/-- A text in double quotes. -/
def inDouble (text : String) : String :=
  "\"" ++ text ++ "\""

/-- How a token is named in a message. -/
def Token.describe : Option Token → String
  | none => "end of file"
  | some (.newline) => "newline"
  | some (.operator text) =>
    if text ∈ ["<", ">", ">>", "<<", "<<-", "<&", ">&", "<>", ">|"] then "redirection"
    else inDouble text
  | some (.descriptor _) => "redirection"
  | some (.word pieces) =>
    match bareText? pieces with
    | some text => if text ∈ reserved then inDouble text else "word"
    | none => "word"
  | some _ => "word"

/-- The text of a token, as messages of the extended dialect show it. -/
def Token.spelling : Token → String
  | .newline => "newline"
  | .operator text => text
  | .descriptor number => toString number
  | .word pieces => unquotedText pieces
  | .arithmetic _ => "("
  | .condition _ => "[["
  | .unreadable _ => ""

/-- Fails at a token that may not stand here. -/
def unexpected {α : Type} (wanted : Option String := none) : Reading α := do
  let line ← lineHere
  match ← peek, ← dialectHere with
  | some (.unreadable reasons), .plain => misread reasons
  | some (.unreadable [reason]), .extended => misread [reason]
  | some (.unreadable reasons), .extended => misreadLine line reasons
  | found, .plain =>
    let expecting :=
      match wanted with
      | none => ""
      | some token => " (expecting " ++ token ++ ")"
    misread ["Syntax error: " ++ Token.describe found ++ " unexpected" ++ expecting]
  | none, .extended => misread ["syntax error: unexpected end of file"]
  | some token, .extended =>
    let line := match token with
      | .newline => line - 1
      | _ => line
    misreadLine line ["syntax error near unexpected token " ++ betweenMarks token.spelling]

/-- Whether the next token is a given operator. -/
def atOperator (text : String) : Reading Bool := do
  match ← peek with
  | some (.operator other) => return other == text
  | _ => return false

/-- Whether the next token is a given reserved word. -/
def atReserved (text : String) : Reading Bool := do
  match ← peek with
  | some (.word word) => return bareText? word == some text
  | _ => return false

/-- Whether the next token ends a list of commands. -/
def atClosing : Reading Bool := do
  match ← peek with
  | none => return true
  | some (.operator text) => return [")", ";;", ";&", ";;&"].contains text
  | some (.word word) => return ((bareText? word).map (closing.contains ·)).getD false
  | _ => return false

/-- Takes a given reserved word away. -/
def takeReserved (text : String) : Reading Unit := do
  if ← atReserved text then skip else unexpected (inDouble text)

/-- Takes a given operator away. -/
def takeOperator (text : String) : Reading Unit := do
  if ← atOperator text then skip else unexpected (inDouble text)

/-- Takes an operator away if it is next. -/
def takeOperator? (text : String) : Reading Bool := do
  if ← atOperator text then
    skip
    return true
  else return false

/-- Takes a word away. -/
def readWord (wanted : Option String := none) : Reading Word := do
  match ← peek with
  | some (.word word) =>
    skip
    return word
  | _ => unexpected wanted

/-! ## Redirections and assignments -/

/-- The redirection that an operator stands for, with its usual descriptor. -/
def redirection? : String → Option (Redirection × Nat)
  | "<" => some (.input, 0)
  | ">" => some (.output, 1)
  | ">|" => some (.force, 1)
  | ">>" => some (.append, 1)
  | "<>" => some (.update, 0)
  | "<&" => some (.duplicate, 0)
  | ">&" => some (.duplicate, 1)
  | "<<" => some (.here, 0)
  | "<<-" => some (.here, 0)
  | "<<<" => some (.line, 0)
  | "&>" => some (.both false, 1)
  | "&>>" => some (.both true, 1)
  | _ => none

/-- Reads what stands behind the operator of a redirection. -/
def readTarget (kind : Redirection) (descriptor : Nat) : Reading Redirect := do
  let word ← readWord
  match kind with
  | .here =>
    let unread ← get
    match unread.texts with
    | [] => return ⟨descriptor, kind, []⟩
    | text :: texts =>
      set { unread with
        texts := texts, warnings := unread.warnings ++ text.warning.toList }
      return ⟨descriptor, kind, text.word⟩
  | .duplicate =>
    match bareText? word, ← dialectHere with
    | some text, .plain =>
      if text = "-" ∨ (text.toList.all isDigit ∧ text.length = 1) then
        return ⟨descriptor, kind, word⟩
      else misread ["Syntax error: Bad fd number"]
    | _, _ => return ⟨descriptor, kind, word⟩
  | _ => return ⟨descriptor, kind, word⟩

/-- Reads a redirection if one is next. -/
def readRedirect? : Reading (Option Redirect) := do
  match ← peek with
  | some (.descriptor number) =>
    skip
    match ← peek with
    | some (.operator text) =>
      match redirection? text with
      | some (kind, _) =>
        skip
        return some (← readTarget kind number)
      | none => unexpected
    | _ => unexpected
  | some (.operator text) =>
    match redirection? text with
    | some (kind, usual) =>
      skip
      return some (← readTarget kind usual)
    | none => return none
  | _ => return none

/-- Reads the redirections that are next. -/
def readRedirects : (fuel : Nat) → Reading (List Redirect)
  | 0 => return []
  | fuel + 1 => do
    match ← readRedirect? with
    | none => return []
    | some redirect => return redirect :: (← readRedirects fuel)

/-- A word behind a text without quotes. -/
def wordBehind (text : List Char) (word : Word) : Word :=
  if text.isEmpty then word else .text (String.ofList text) false :: word

/-- Takes an index up to its closing bracket and the sign of an assignment behind it. -/
def takeIndex : (found : Word) → Word → Option (Word × Bool × Word)
  | _, [] => none
  | found, .text content false :: rest =>
    let chars := content.toList
    let spot? := (List.range chars.length).find? fun i =>
      ['=', '+'].any fun sign =>
        chars[i]? == some ']' && chars[i + 1]? == some sign &&
          (sign == '=' || chars[i + 2]? == some '=')
    match spot? with
    | none => takeIndex (found ++ [.text content false]) rest
    | some i =>
      let adds := chars[i + 1]? == some '+'
      some (found ++ wordBehind (chars.take i) [], adds,
        wordBehind (chars.drop (if adds then i + 3 else i + 2)) rest)
  | found, piece :: rest => takeIndex (found ++ [piece]) rest

/-- The assignment that a word is, if it is one. -/
def assignment? (dialect : Dialect) (word : Word) : Option Assignment :=
  match word with
  | [.items name adds words] =>
      some { name := name, adds := adds, value := [.items name adds words] }
  | .text content false :: rest =>
    let name := content.toList.takeWhile isNameChar
    if isName name then
      match dialect, content.toList.drop name.length with
      | _, '=' :: value => some { name := String.ofList name, value := wordBehind value rest }
      | .extended, '+' :: '=' :: value =>
        some { name := String.ofList name, adds := true, value := wordBehind value rest }
      | .extended, '[' :: behind =>
        (takeIndex [] (wordBehind behind rest)).map fun (index, adds, value) =>
          { name := String.ofList name, index := some index, adds := adds, value := value }
      | _, _ => none
    else none
  | _ => none

/-! ## Other names -/

/-- Puts the tokens of another text in the place of a name at the start of a command, unless it came
from that text. -/
def replaceAliases : (fuel : Nat) → (used : List String) → Reading Unit
  | 0, _ => return
  | fuel + 1, used => do
    let unread ← get
    match unread.tokens with
    | ⟨line, .word word⟩ :: rest =>
      match (bareText? word).bind fun name =>
          (unread.aliases.lookup name).map fun text => (name, text) with
      | none => return
      | some (name, text) =>
        if used.contains name then return
        let found := (tokens unread.dialect text.toList).tokens.map fun placed =>
          { placed with line := line }
        let endsInBlank := text.toList.getLast?.any fun c => c == ' ' || c == '\t'
        let rest ←
          if endsInBlank then
            set { unread with tokens := rest }
            replaceAliases fuel []
            pure (← get).tokens
          else pure rest
        set { unread with tokens := found ++ rest }
        replaceAliases fuel (name :: used)
    | _ => return

/-- The longest chain of names that stand for each other. -/
def mostAliases : Nat := 100

/-! ## Commands -/

/-- Reads a pattern. In the plain dialect any token stands for one: what is not a word means the
word that was taken last. -/
def readPattern : Reading Word := do
  match ← peek, ← dialectHere with
  | some (.word _), _ | none, _ | some (.unreadable _), _ | _, .extended => readWord (inDouble ")")
  | some _, .plain =>
    skip
    return (← get).latest

/-- Reads the words of patterns up to the parenthesis behind them. -/
def readPatterns : (fuel : Nat) → Reading (List Word)
  | 0 => unexpected
  | fuel + 1 => do
    let word ← readPattern
    if ← takeOperator? "|" then return word :: (← readPatterns fuel)
    match ← peek, ← dialectHere with
    | some (.word _), .plain =>
      misread ["Syntax error: word unexpected (expecting " ++ inDouble ")" ++ ")"]
    | _, _ => takeOperator ")"
    return [word]

/-- Reads words as long as there are any. -/
def readWords : (fuel : Nat) → Reading (List Word)
  | 0 => return []
  | fuel + 1 => do
    match ← peek with
    | some (.word word) =>
      skip
      return word :: (← readWords fuel)
    | _ => return []

/-- Takes the variable of a loop away. -/
def readLoopName : Reading String := do
  match ← peek, ← dialectHere with
  | some (.word word), .plain =>
    skip
    match bareText? word with
    | some text =>
      if isName text.toList then return text else misread ["Syntax error: Bad for loop variable"]
    | none => misread ["Syntax error: Bad for loop variable"]
  | some (.word word), .extended =>
    skip
    return unquotedText word
  | _, .plain => misread ["Syntax error: Bad for loop variable"]
  | _, .extended => unexpected

/-- The name of a function. -/
def functionName (word : Word) : Reading String := do
  match bareText? word, ← dialectHere with
  | some text, .extended => return text
  | some text, .plain =>
    if isName text.toList then return text else misread ["Syntax error: Bad function name"]
  | none, _ => misread ["Syntax error: Bad function name"]

/-- The three expressions of a loop that counts. -/
def countedParts (text : String) : List String :=
  (Text.splitAtEach ';' text.toList).map String.ofList

/-- The word that an expression is. -/
def expressionWord (text : String) : Word :=
  match takeWord .extended (wordFuel text.toList) .whole text.toList with
  | .ok (word, _) => word
  | .error _ => [.text text true]

mutual

/-- Reads commands up to a token that ends their list. -/
def readItems : (fuel : Nat) → Reading (List Command)
  | 0 => unexpected
  | fuel + 1 => do
    skipNewlines
    if ← atClosing then return []
    let command ← readChain fuel
    if ← takeOperator? ";" then return command :: (← readItems fuel)
    if ← takeOperator? "&" then return .background command :: (← readItems fuel)
    match ← peek with
    | some .newline => return command :: (← readItems fuel)
    | _ => return [command]

/-- Reads a list of at least one command. -/
def readList : (fuel : Nat) → Reading Command
  | 0 => unexpected
  | fuel + 1 => do
    match ← readItems fuel with
    | [] => if (← peek).isNone then return .sequence [] else unexpected
    | commands => return .sequence commands

/-- Reads commands that are joined by success and failure. -/
def readChain : (fuel : Nat) → Reading Command
  | 0 => unexpected
  | fuel + 1 => do readLinks fuel (← readPipeline fuel)

/-- Reads what is joined to a command. -/
def readLinks : (fuel : Nat) → Command → Reading Command
  | 0, _ => unexpected
  | fuel + 1, first => do
    if ← takeOperator? "&&" then
      skipNewlines
      readLinks fuel (.both first (← readPipeline fuel))
    else if ← takeOperator? "||" then
      skipNewlines
      readLinks fuel (.either first (← readPipeline fuel))
    else return first

/-- Reads commands whose outputs are inputs. -/
def readPipeline : (fuel : Nat) → Reading Command
  | 0 => unexpected
  | fuel + 1 => do
    if ← atReserved "!" then
      skip
      return .negated (← readBare fuel)
    readBare fuel

/-- Reads commands whose outputs are inputs, without what would turn their success round. -/
def readBare : (fuel : Nat) → Reading Command
  | 0 => unexpected
  | fuel + 1 => do
    match ← readStages fuel with
    | [command] => return command
    | commands => return .pipeline commands

/-- Reads the commands between pipes. -/
def readStages : (fuel : Nat) → Reading (List Command)
  | 0 => unexpected
  | fuel + 1 => do
    let line ← lineHere
    let command ← readCommand fuel
    if ← takeOperator? "|" then
      skipNewlines
      return command :: (← readStages fuel)
    if ← takeOperator? "|&" then
      skipNewlines
      let command := Command.redirected line command [⟨2, .duplicate, [.text "1" false]⟩]
      return command :: (← readStages fuel)
    return [command]

/-- Reads one command. -/
def readCommand : (fuel : Nat) → Reading Command
  | 0 => unexpected
  | fuel + 1 => do
    replaceAliases mostAliases []
    let line ← lineHere
    match ← peek with
    | some (.word word) =>
      match bareText? word with
      | some "if" =>
        skip
        withRedirects fuel line (← readConditional fuel)
      | some "while" =>
        skip
        withRedirects fuel line (← readLoop fuel false)
      | some "until" =>
        skip
        withRedirects fuel line (← readLoop fuel true)
      | some "for" =>
        skip
        withRedirects fuel line (← readForEach fuel)
      | some "case" =>
        skip
        let word ← readWord "word"
        skipNewlines
        takeReserved "in"
        withRedirects fuel line (.choice word (← readCases fuel))
      | some "\x7b" =>
        skip
        let body ← readList fuel
        takeReserved "\x7d"
        withRedirects fuel line body
      | some text =>
        if text ∈ reserved then unexpected
        else if text = "function" ∧ (← dialectHere).isExtended then
          skip
          let name ← functionName (← readWord)
          if ← takeOperator? "(" then takeOperator ")"
          skipNewlines
          return .function name (← readCommand fuel)
        else readSimple fuel line [] [] []
      | none => readSimple fuel line [] [] []
    | some (.operator "(") =>
      skip
      let body ← readList fuel
      takeOperator ")"
      withRedirects fuel line (.subshell body)
    | some (.operator text) =>
      if (redirection? text).isSome then readSimple fuel line [] [] [] else unexpected
    | some (.descriptor _) => readSimple fuel line [] [] []
    | some (.condition clause) =>
      skip
      withRedirects fuel line (.condition line clause)
    | some (.arithmetic text) =>
      skip
      withRedirects fuel line (.arithmetic line (expressionWord text))
    | _ => unexpected

/-- Reads the redirections behind a command. -/
def withRedirects : (fuel line : Nat) → Command → Reading Command
  | 0, _, _ => unexpected
  | fuel + 1, line, command => do
    match ← readRedirects fuel with
    | [] => return command
    | redirects => return .redirected line command redirects

/-- Reads a choice behind its first word. -/
def readConditional : (fuel : Nat) → Reading Command
  | 0 => unexpected
  | fuel + 1 => do
    let condition ← readList fuel
    takeReserved "then"
    let success ← readList fuel
    if ← atReserved "elif" then
      skip
      return .conditional condition success (← readConditional fuel)
    if ← atReserved "else" then
      skip
      let failure ← readList fuel
      takeReserved "fi"
      return .conditional condition success failure
    takeReserved "fi"
    return .conditional condition success (.sequence [])

/-- Reads a loop behind its first word. -/
def readLoop : (fuel : Nat) → (untilHolds : Bool) → Reading Command
  | 0, _ => unexpected
  | fuel + 1, untilHolds => do
    let condition ← readList fuel
    return .loop untilHolds condition (← readBody fuel)

/-- Reads the body of a loop. -/
def readBody : (fuel : Nat) → Reading Command
  | 0 => unexpected
  | fuel + 1 => do
    takeReserved "do"
    let body ← readList fuel
    takeReserved "done"
    return body

/-- Reads a loop over words behind its first word. -/
def readForEach : (fuel : Nat) → Reading Command
  | 0 => unexpected
  | fuel + 1 => do
    match ← peek with
    | some (.arithmetic text) =>
      let line ← lineHere
      match countedParts text with
      | [first, condition, next] =>
        skip
        let _ ← takeOperator? ";"
        skipNewlines
        let body ←
          if ← atReserved "\x7b" then readCommand fuel else readBody fuel
        return .counted line (expressionWord first) (expressionWord condition)
          (expressionWord next) body
      | _ => unexpected
    | _ => pure ()
    let name ← readLoopName
    skipNewlines
    if ← atReserved "in" then
      skip
      let words ← readWords fuel
      match ← peek with
      | some .newline => skip
      | _ => if !(← takeOperator? ";") then unexpected
      skipNewlines
      return .forEach name (some words) (← readBody fuel)
    let _ ← takeOperator? ";"
    skipNewlines
    return .forEach name none (← readBody fuel)

/-- Reads the cases of a choice by patterns. -/
def readCases : (fuel : Nat) → Reading (List (List Word × Command × CaseEnd))
  | 0 => unexpected
  | fuel + 1 => do
    skipNewlines
    if ← atReserved "esac" then
      skip
      return []
    let _ ← takeOperator? "("
    let patterns ← readPatterns fuel
    let commands ← readItems fuel
    let case (ending : CaseEnd) : List Word × Command × CaseEnd :=
      (patterns, .sequence commands, ending)
    if ← takeOperator? ";;" then return case .done :: (← readCases fuel)
    if ← takeOperator? ";&" then return case .fallThrough :: (← readCases fuel)
    if ← takeOperator? ";;&" then return case .goOn :: (← readCases fuel)
    if ← atReserved "esac" then
      skip
      return [case .done]
    unexpected (inDouble ";;")

/-- Reads a call, or the definition of a function. What was read of it comes newest first. -/
def readSimple : (fuel line : Nat) → List Assignment → List Word → List Redirect →
    Reading Command
  | 0, _, _, _, _ => unexpected
  | fuel + 1, line, assignments, words, redirects => do
    match ← readRedirect? with
    | some redirect => readSimple fuel line assignments words (redirect :: redirects)
    | none =>
      if words.isEmpty ∧ !assignments.isEmpty then replaceAliases mostAliases []
      let dialect ← dialectHere
      match ← peek with
      | some (.word word) =>
        skip
        match if words.isEmpty then assignment? dialect word else none with
        | some assignment => readSimple fuel line (assignment :: assignments) words redirects
        | none => readSimple fuel line assignments (word :: words) redirects
      | some (.operator "(") =>
        match words, assignments, redirects with
        | [word], [], [] =>
          skip
          takeOperator ")"
          let name ← functionName word
          skipNewlines
          return .function name (← readCommand fuel)
        | _, _, _ => unexpected
      | some (.unreadable _) => unexpected
      | some (.arithmetic _) => unexpected
      | _ => return .simple line assignments.reverse words.reverse redirects.reverse

end

/-! ## Lines -/

/-- Reads the commands of one line. -/
def readLine (depth : Nat) : (fuel : Nat) → Reading (List Command)
  | 0 => unexpected
  | fuel + 1 => do
    match ← peek with
    | none => return []
    | some .newline =>
      skip
      return []
    | _ =>
      let command ← readChain depth
      if ← takeOperator? ";" then return command :: (← readLine depth fuel)
      if ← takeOperator? "&" then return .background command :: (← readLine depth fuel)
      match ← peek with
      | none => return [command]
      | some .newline =>
        skip
        return [command]
      | _ => unexpected

/-- The text of a command, cut into tokens that are read line by line. -/
structure Script where
  /-- What is left to be read. -/
  unread : Unread

/-- The script that a text is. -/
def Script.ofText (dialect : Dialect) (text : String) : Script :=
  let chars := text.toList
  let chars := if dialect.isExtended ∧ chars.getLast? ≠ some '\n' then chars ++ ['\n'] else chars
  let tokens := tokens dialect chars
  { unread :=
      { dialect := dialect, tokens := tokens.tokens, texts := tokens.texts,
        lines := (Text.splitAtEach '\n' chars).map String.ofList } }

/-- A bound on the number of lines that are left. -/
def Script.size (script : Script) : Nat :=
  script.unread.tokens.length + 1

/-- Reads the commands of the next line, if there is one. Some names stand for other texts. -/
def Script.next? (script : Script) (aliases : List (String × String)) :
    Option (Except Misreading (Command × Script)) :=
  if script.unread.tokens.isEmpty then none
  else
    let more := sumOf (aliases.map fun (_, text) => text.length)
    let fuel := 9 * (script.size + 1) * (more + 1)
    match readLine fuel fuel { script.unread with aliases := aliases, warnings := [] } with
    | .error misreading => some (.error misreading)
    | .ok (commands, unread) => some (.ok (.sequence commands, ⟨unread⟩))

end HistoryExpansion.Shell
