import HistoryExpansion.Shell.Command

/-!
# Words in the text of a command

A word ends at a blank or an operator that stands outside of quotes. Quotes keep characters from
counting; a dollar sign or a back quote starts a replacement. `takeWord` reads one word and gives
what follows it, by the rules of a dialect.
-/

namespace HistoryExpansion.Shell

/-! ## Classes of characters -/

/-- One of the ten digits. -/
def isDigit (c : Char) : Bool := '0' ≤ c && c ≤ '9'

/-- The value of decimal digits. -/
def decimal (digits : List Char) : Nat :=
  digits.foldl (fun value c => value * 10 + (c.toNat - 0x30)) 0

/-- A character that a name may start with. -/
def isNameStart (c : Char) : Bool :=
  ('a' ≤ c && c ≤ 'z') || ('A' ≤ c && c ≤ 'Z') || c == '_'

/-- A character of a name. -/
def isNameChar (c : Char) : Bool := isNameStart c || isDigit c

/-- Whether a text is a name. -/
def isName (text : List Char) : Bool :=
  match text with
  | [] => false
  | c :: rest => isNameStart c && rest.all isNameChar

/-- A character that ends a word. -/
def endsWord (c : Char) : Bool :=
  c == ' ' || c == '\t' || c == '\n' || c == ';' || c == '&' || c == '|' || c == '<' || c == '>' ||
    c == '(' || c == ')'

/-- The one-character names of special parameters. -/
def isSpecial (c : Char) : Bool :=
  "@*#?-$!".toList.contains c

/-- The back quote. -/
def backQuote : Char := '\x60'

/-- Reasons why a text ends too early. -/
inductive Cut where
  /-- Within double quotes. -/
  | quotes
  /-- Within single quotes. -/
  | singleQuotes
  /-- Within a command. -/
  | command
  /-- Within a command between back quotes. -/
  | backQuotes
  /-- Within the braces of a parameter. -/
  | braces
  /-- Within an arithmetic expression. -/
  | arithmetic
  deriving DecidableEq, Repr

/-- The wording of a reason in the plain dialect. -/
def Cut.plainMessage : Cut → String
  | quotes => "Syntax error: Unterminated quoted string"
  | singleQuotes => "Syntax error: Unterminated quoted string"
  | command => "Syntax error: end of file unexpected (expecting \")\")"
  | backQuotes => "Syntax error: EOF in backquote substitution"
  | braces => "Syntax error: Missing '\x7d'"
  | arithmetic => "Syntax error: Missing '))'"

/-- The character that is missing where a text ends too early. -/
def Cut.missing : Cut → Char
  | quotes => '"'
  | singleQuotes => '\''
  | backQuotes => backQuote
  | braces => '\x7d'
  | _ => ')'

/-- A text between a back quote and an apostrophe. -/
def betweenMarks (text : String) : String :=
  "\x60" ++ text ++ "'"

/-- The wording of a reason. -/
def Cut.message (dialect : Dialect) (cut : Cut) : String :=
  match dialect with
  | .plain => cut.plainMessage
  | .extended =>
    "unexpected EOF while looking for matching " ++ betweenMarks (String.ofList [cut.missing])

/-! ## Replacements -/

/-- Whether it is noticed where a word starts, and not where the text ends. -/
def Cut.isNoticedAtStart (dialect : Dialect) (cut : Cut) : Bool :=
  match dialect, cut with
  | .plain, _ => false
  | .extended, .command => false
  | .extended, _ => true

/-- Takes characters up to a closing single quote. -/
def takeSingle : (found : List Char) → List Char → Except Cut (List Char × List Char)
  | _, [] => .error .singleQuotes
  | found, c :: rest => if c = '\'' then .ok (found.reverse, rest) else takeSingle (c :: found) rest

/-- Takes the text of a command between back quotes. A backslash keeps only a back quote, a
backslash, a dollar sign or, between double quotes, a double quote behind it from counting. -/
def takeBackQuoted (quoted : Bool) : (found : List Char) → List Char →
    Except Cut (List Char × List Char)
  | _, [] => .error .backQuotes
  | found, '\\' :: c :: rest =>
    if c = backQuote ∨ c = '\\' ∨ c = '$' ∨ (c = '"' ∧ quoted) then
      takeBackQuoted quoted (c :: found) rest
    else takeBackQuoted quoted (c :: '\\' :: found) rest
  | found, c :: rest =>
    if c = backQuote then .ok (found.reverse, rest) else takeBackQuoted quoted (c :: found) rest

/-- Where a scan for a closing parenthesis stands. -/
inductive Within where
  /-- Outside of quotes. -/
  | bare
  /-- Between single quotes. -/
  | single
  /-- Between double quotes. -/
  | double
  /-- In a comment. -/
  | comment
  deriving DecidableEq, Repr

/-- Whether a command may start behind a text, which is given from its end. -/
def mayStartCommand (before : List Char) : Bool :=
  let before := before.dropWhile fun c => c == ' ' || c == '\t'
  match before with
  | [] => true
  | c :: _ =>
    ";&|()\n\x7b!".toList.contains c ||
      ["then", "do", "else", "elif", "if", "while", "until", "in"].contains
        (String.ofList (before.takeWhile fun c => !endsWord c).reverse)

/-- Whether a text starts with a word that stands alone. -/
def startsWithWord (word : String) (text : List Char) : Bool :=
  word.toList.isPrefixOf text && ((text.drop word.length).head?.map endsWord).getD true

/-- The numbers of open parentheses at which choices are open, behind what starts a text that
follows another one: the word for a choice opens one, and the word for its end closes it. -/
def choicesBehind (before text : List Char) (depth : Nat) (choices : List Nat) : List Nat :=
  if !(before.head?.map endsWord).getD true then choices
  else if startsWithWord "case" text ∧ mayStartCommand before then depth :: choices
  else if startsWithWord "esac" text ∧ mayStartCommand before ∧ choices.head? = some depth then
    choices.drop 1
  else choices

/-- Takes the text of a command up to the parenthesis that closes it. `outer` is where the scan goes
on behind what is open, innermost first. The parenthesis behind a pattern of a choice closes
nothing. -/
def takeParens : (outer : List Within) → (choices : List Nat) → Within → (found : List Char) →
    List Char → Except Cut (List Char × List Char)
  | _, _, .single, _, [] => .error .singleQuotes
  | _, _, .double, _, [] => .error .quotes
  | _, _, _, _, [] => .error .command
  | outer, choices, .single, found, c :: rest =>
    takeParens outer choices (if c = '\'' then .bare else .single) (c :: found) rest
  | outer, choices, .comment, found, c :: rest =>
    takeParens outer choices (if c = '\n' then .bare else .comment) (c :: found) rest
  | outer, choices, within, found, '\\' :: c :: rest =>
    takeParens outer choices within (c :: '\\' :: found) rest
  | outer, choices, .double, found, '$' :: '(' :: rest =>
    takeParens (.double :: outer) choices .bare ('(' :: '$' :: found) rest
  | outer, choices, .double, found, c :: rest =>
    if c = '"' then takeParens (outer.drop 1) choices (outer.headD .bare) (c :: found) rest
    else takeParens outer choices .double (c :: found) rest
  | outer, choices, .bare, found, c :: rest =>
    let depth := outer.length
    if c = '\'' then takeParens outer choices .single (c :: found) rest
    else if c = '"' then takeParens (.bare :: outer) choices .double (c :: found) rest
    else if c = '#' ∧ (found.head?.map endsWord).getD true then
      takeParens outer choices .comment (c :: found) rest
    else if c = '(' then takeParens (.bare :: outer) choices .bare (c :: found) rest
    else if c = ')' then
      if choices.head? = some depth then takeParens outer choices .bare (c :: found) rest
      else
        match outer with
        | [] => .ok (found.reverse, rest)
        | within :: outer => takeParens outer choices within (c :: found) rest
    else
      let choices :=
        if c = 'c' ∨ c = 'e' then choicesBehind found (c :: rest) depth choices else choices
      takeParens outer choices .bare (c :: found) rest

/-- Takes the text of an arithmetic expression up to the two parentheses that close it. -/
def takeArithmetic : (depth : Nat) → (found : List Char) → List Char →
    Except Cut (List Char × List Char)
  | _, _, [] => .error .arithmetic
  | depth, found, '(' :: rest => takeArithmetic (depth + 1) ('(' :: found) rest
  | 0, found, ')' :: ')' :: rest => .ok (found.reverse, rest)
  | depth + 1, found, ')' :: rest => takeArithmetic depth (')' :: found) rest
  | depth, found, c :: rest => takeArithmetic depth (c :: found) rest

/-- The treatment that the characters behind a parameter's name ask for, with what follows. -/
def treatment? : List Char → Option (Treatment × List Char)
  | ':' :: '-' :: rest => some (.orElse true, rest)
  | ':' :: '=' :: rest => some (.assign true, rest)
  | ':' :: '?' :: rest => some (.demand true, rest)
  | ':' :: '+' :: rest => some (.instead true, rest)
  | '-' :: rest => some (.orElse false, rest)
  | '=' :: rest => some (.assign false, rest)
  | '?' :: rest => some (.demand false, rest)
  | '+' :: rest => some (.instead false, rest)
  | '#' :: '#' :: rest => some (.cutStart true, rest)
  | '#' :: rest => some (.cutStart false, rest)
  | '%' :: '%' :: rest => some (.cutEnd true, rest)
  | '%' :: rest => some (.cutEnd false, rest)
  | _ => none

/-- The same for the treatments that only the extended dialect has. -/
def extendedTreatment? : List Char → Option (Treatment × List Char)
  | '/' :: '/' :: rest => some (.replace .all, rest)
  | '/' :: '#' :: rest => some (.replace .atStart, rest)
  | '/' :: '%' :: rest => some (.replace .atEnd, rest)
  | '/' :: rest => some (.replace .first, rest)
  | '^' :: '^' :: rest => some (.letters true true, rest)
  | '^' :: rest => some (.letters true false, rest)
  | ',' :: ',' :: rest => some (.letters false true, rest)
  | ',' :: rest => some (.letters false false, rest)
  | ':' :: rest => some (.slice, rest)
  | '@' :: letter :: '\x7d' :: rest =>
    if "QUuLEPAKa".toList.contains letter then some (.shown letter, '\x7d' :: rest) else none
  | _ => none

/-- The character that parts the two words of a treatment. -/
def Treatment.separator? : Treatment → Option Char
  | slice => some ':'
  | replace _ => some '/'
  | _ => none

/-- The name of the parameter that a text between braces starts with, with what follows. -/
def parameterName? (text : List Char) : Option (String × List Char) :=
  match text with
  | [] => none
  | c :: rest =>
    if isNameStart c then
      some (String.ofList (text.takeWhile isNameChar), text.dropWhile isNameChar)
    else if isDigit c then
      some (String.ofList (text.takeWhile isDigit), text.dropWhile isDigit)
    else if isSpecial c then some (String.ofList [c], rest)
    else none

/-- Where a word is being read. -/
inductive Setting where
  /-- Among other words. -/
  | words
  /-- Between double quotes. -/
  | quoted
  /-- Between the braces of a parameter. -/
  | braces
  /-- Between braces that stand between double quotes. -/
  | quotedBraces
  /-- In a text of its own, such as an arithmetic expression or a text that is read as input. -/
  | whole
  /-- In a part of what stands between braces or brackets, up to a character or a brace. -/
  | part (stop : Char)
  /-- On the right of a test, as a pattern or a regular expression, within so many parentheses. -/
  | pattern (regular : Bool) (depth : Nat)
  deriving DecidableEq, Repr

/-- Whether everything counts as quoted. -/
def Setting.isQuoted : Setting → Bool
  | .quoted => true
  | .quotedBraces => true
  | .whole => true
  | _ => false

/-- Whether a character ends the word. -/
def Setting.ends (setting : Setting) (c : Char) : Bool :=
  match setting with
  | .words => endsWord c
  | .quoted => c == '"'
  | .braces => c == '\x7d'
  | .quotedBraces => c == '\x7d'
  | .whole => false
  | .part stop => c == stop || c == '\x7d'
  | .pattern _ (_ + 1) => false
  | .pattern true 0 => c == ' ' || c == '\t' || c == '\n' || c == ')'
  | .pattern false 0 => endsWord c && c != '('

/-- The setting behind a character of the word: parentheses open and close in patterns. -/
def Setting.behind (setting : Setting) (c : Char) : Setting :=
  match setting with
  | .pattern regular depth =>
    if c = '(' then .pattern regular (depth + 1)
    else if c = ')' then .pattern regular (depth - 1)
    else setting
  | setting => setting

/-- Whether a backslash keeps a character from counting where everything is quoted. -/
def isEscapable (setting : Setting) (c : Char) : Bool :=
  c == '$' || c == backQuote || c == '\\' || c == '\n' ||
    (c == '"' && setting != .whole) || (c == '\x7d' && setting == .quotedBraces)

/-- Joins a piece with the pieces behind it. -/
def joinPiece (piece : Piece) (found : Except Cut (Word × List Char)) :
    Except Cut (Word × List Char) :=
  match found with
  | .error cut => .error cut
  | .ok (word, rest) =>
    match piece, word with
    | .text a p, .text b q :: word =>
      if p = q then .ok (.text (a ++ b) p :: word, rest)
      else .ok (.text a p :: .text b q :: word, rest)
    | piece, word => .ok (piece :: word, rest)

/-- A number in capital digits of base sixteen, in so many places. -/
def hexDigits (places value : Nat) : List Char :=
  let digits := (Nat.toDigits 16 value).map Char.toUpper
  List.replicate (places - digits.length) '0' ++ digits

/-- What is shown for the number of a character where only some characters can be shown: the
character itself, or its number behind a letter. -/
def numberedChar (value : Nat) : List Char :=
  if value < 0x80 then [Char.ofNat value]
  else if value < 0x10000 then '\\' :: 'u' :: hexDigits 4 value
  else '\\' :: 'U' :: hexDigits 8 value

/-- The octets that a letter stands for behind a backslash where all control characters have
letters, with what follows. -/
def takeControl (text : List Char) : Option (List Char × List Char) :=
  let digits (base : Nat) (most : Nat) (rest : List Char) : Nat × List Char :=
    let found := (rest.take most).takeWhile fun c => c.isDigit || isHex base c
    (found.foldl (fun value c => value * base + hexValue c) 0, rest.drop found.length)
  match text with
  | 'a' :: rest => some (['\x07'], rest)
  | 'b' :: rest => some (['\x08'], rest)
  | 'e' :: rest => some (['\x1b'], rest)
  | 'E' :: rest => some (['\x1b'], rest)
  | 'f' :: rest => some (['\x0c'], rest)
  | 'n' :: rest => some (['\n'], rest)
  | 'r' :: rest => some (['\x0d'], rest)
  | 't' :: rest => some (['\t'], rest)
  | 'v' :: rest => some (['\x0b'], rest)
  | 'x' :: rest =>
    let (value, behind) := digits 16 2 rest
    if behind.length = rest.length then none else some ([Char.ofNat value], behind)
  | 'u' :: rest =>
    let (value, behind) := digits 16 4 rest
    if behind.length = rest.length then none else some (numberedChar value, behind)
  | 'U' :: rest =>
    let (value, behind) := digits 16 8 rest
    if behind.length = rest.length then none else some (numberedChar value, behind)
  | 'c' :: c :: rest => some ([Char.ofNat (c.toUpper.toNat % 32)], rest)
  | c :: rest =>
    if '0' ≤ c ∧ c ≤ '7' then
      let found := (text.take 3).takeWhile fun c => '0' ≤ c && c ≤ '7'
      let value := found.foldl (fun value c => value * 8 + (c.toNat - 0x30)) 0
      some ([Char.ofNat (value % 256)], text.drop found.length)
    else if "\\'\"?".toList.contains c then some ([c], rest)
    else none
  | [] => none
where
  /-- Whether a character is a letter that is a digit of a base. -/
  isHex (base : Nat) (c : Char) : Bool :=
    base == 16 && (('a' ≤ c && c ≤ 'f') || ('A' ≤ c && c ≤ 'F'))
  /-- The value of a digit. -/
  hexValue (c : Char) : Nat :=
    if c.isDigit then c.toNat - 0x30 else c.toLower.toNat - 0x61 + 10

/-- Takes characters up to a closing single quote, with escapes among them. -/
def takeEscaped : (fuel : Nat) → (found : List Char) → List Char →
    Except Cut (List Char × List Char)
  | 0, _, _ => .error .singleQuotes
  | _, _, [] => .error .singleQuotes
  | _, found, '\'' :: rest => .ok (found.reverse, rest)
  | fuel + 1, found, '\\' :: rest =>
    match takeControl rest with
    | some (chars, rest) => takeEscaped fuel (chars.reverse ++ found) rest
    | none => takeEscaped fuel ('\\' :: found) rest
  | fuel + 1, found, c :: rest => takeEscaped fuel (c :: found) rest

mutual

/-- Takes a word up to a character that ends it, which is left. -/
def takeWord (dialect : Dialect) : (fuel : Nat) → Setting → List Char →
    Except Cut (Word × List Char)
  | 0, _, _ => .error .quotes
  | fuel + 1, setting, text =>
    match text with
    | [] =>
      match setting with
      | .words => .ok ([], [])
      | .whole => .ok ([], [])
      | .pattern _ _ => .ok ([], [])
      | .braces => .error .braces
      | .part _ => .error .braces
      | _ => .error .quotes
    | c :: rest =>
      if dialect.isExtended && setting == .words && (c == '<' || c == '>') &&
          rest.head? == some '(' then
        match takeParens [] [] .bare [] rest.tail with
        | .error cut => .error cut
        | .ok (command, rest) =>
          joinPiece (.channel (c == '<') (String.ofList command))
            (takeWord dialect fuel setting rest)
      else if setting.ends c then .ok ([], c :: rest)
      else if c = '\\' then
        match rest with
        | [] => joinPiece (.text "\\" setting.isQuoted) (takeWord dialect fuel setting [])
        | d :: rest =>
          if setting.isQuoted && !isEscapable setting d then
            joinPiece (.text "\\" true) (takeWord dialect fuel setting (d :: rest))
          else if d = '\n' then takeWord dialect fuel setting rest
          else joinPiece (.text (String.ofList [d]) true) (takeWord dialect fuel setting rest)
      else if c = '\'' ∧ !setting.isQuoted then
        match takeSingle [] rest with
        | .error cut => .error cut
        | .ok (content, rest) =>
          joinPiece (.text (String.ofList content) true) (takeWord dialect fuel setting rest)
      else if c = '"' ∧ setting ≠ .whole then
        if setting = .quotedBraces then takeWord dialect fuel setting rest
        else
          match takeWord dialect fuel .quoted rest with
          | .error cut => .error cut
          | .ok (word, rest) =>
            let word := if word.isEmpty then [.text "" true] else word
            match takeWord dialect fuel setting rest.tail with
            | .error cut => .error cut
            | .ok (behind, rest) => .ok (word ++ behind, rest)
      else if c = '$' then takeDollar dialect fuel setting rest
      else if c = backQuote then
        match takeBackQuoted setting.isQuoted [] rest with
        | .error cut => .error cut
        | .ok (command, rest) =>
          joinPiece (.output (String.ofList command) setting.isQuoted)
            (takeWord dialect fuel setting rest)
      else
        joinPiece (.text (String.ofList [c]) setting.isQuoted)
          (takeWord dialect fuel (setting.behind c) rest)

/-- Takes what stands behind a dollar sign, and the word behind it. -/
def takeDollar (dialect : Dialect) : (fuel : Nat) → Setting → List Char →
    Except Cut (Word × List Char)
  | 0, _, _ => .error .quotes
  | fuel + 1, setting, text =>
    let quoted := setting.isQuoted
    let command (rest : List Char) : Except Cut (Word × List Char) :=
      match takeParens [] [] .bare [] rest with
      | .error cut => .error cut
      | .ok (command, rest) =>
        joinPiece (.output (String.ofList command) quoted) (takeWord dialect fuel setting rest)
    match text with
    | '(' :: '(' :: rest =>
      match takeArithmetic 0 [] rest with
      | .error cut => .error cut
      | .ok (expression, behind) =>
        match takeWord dialect fuel .whole expression with
        | .error cut => .error cut
        | .ok (expression, _) =>
          joinPiece (.arithmetic expression quoted) (takeWord dialect fuel setting behind)
    | '(' :: rest => command rest
    | '\x7b' :: rest => takeBraces dialect fuel setting rest
    | c :: rest =>
      if isNameStart c then
        let name := text.takeWhile isNameChar
        joinPiece (.parameter (String.ofList name) none .plain [] quoted)
          (takeWord dialect fuel setting (text.drop name.length))
      else if isDigit c ∨ isSpecial c then
        joinPiece (.parameter (String.ofList [c]) none .plain [] quoted)
          (takeWord dialect fuel setting rest)
      else if dialect.isExtended ∧ c = '\'' ∧ !quoted then
        match takeEscaped (rest.length + 1) [] rest with
        | .error cut => .error cut
        | .ok (content, rest) =>
          joinPiece (.text (String.ofList content) true) (takeWord dialect fuel setting rest)
      else if dialect.isExtended ∧ c = '"' ∧ !quoted then takeWord dialect fuel setting text
      else joinPiece (.text "$" quoted) (takeWord dialect fuel setting text)
    | [] => joinPiece (.text "$" quoted) (takeWord dialect fuel setting [])

/-- Takes what stands behind a dollar sign and an opening brace, and the word behind it. -/
def takeBraces (dialect : Dialect) : (fuel : Nat) → Setting → List Char →
    Except Cut (Word × List Char)
  | 0, _, _ => .error .quotes
  | fuel + 1, setting, text =>
    let quoted := setting.isQuoted
    let whole (name : String) (index : Option Word) (treatment : Treatment) (rest : List Char) :
        Except Cut (Word × List Char) :=
      joinPiece (.parameter name index treatment [] quoted) (takeWord dialect fuel setting rest)
    let bad (behind : List Char) : Except Cut (Word × List Char) :=
      if dialect.isExtended then
        let inner := text.takeWhile (· ≠ '\x7d')
        match text.drop inner.length with
        | [] => .error .braces
        | _ :: rest => whole "" none (.bad (String.ofList inner)) rest
      else
        let behind := if behind.take 2 = [':', '\x7d'] then behind.drop 2 else behind
        match takeWord dialect fuel (if quoted then .quotedBraces else .braces) behind with
        | .error cut => .error cut
        | .ok (_, rest) => whole "" none (.bad "") rest.tail
    let treated (name : String) (index : Option Word) (rest : List Char) :
        Except Cut (Word × List Char) :=
      match rest with
      | '\x7d' :: rest => whole name index .plain rest
      | [] => .error (if quoted then .quotes else .braces)
      | [_] => .error (if quoted then .quotes else .braces)
      | rest =>
        let known := if dialect.isExtended then (treatment? rest).or (extendedTreatment? rest)
          else treatment? rest
        match known with
        | none => bad rest
        | some (treatment, rest) =>
          let first :=
            match treatment.separator? with
            | some separator => Setting.part separator
            | none => if quoted then .quotedBraces else .braces
          match takeWord dialect fuel first rest with
          | .error cut => .error cut
          | .ok (word, behind) =>
            if behind.head? = some '\x7d' then
              joinPiece (.parameter name index treatment [word] quoted)
                (takeWord dialect fuel setting behind.tail)
            else
              match takeWord dialect fuel .braces behind.tail with
              | .error cut => .error cut
              | .ok (second, rest) =>
                joinPiece (.parameter name index treatment [word, second] quoted)
                  (takeWord dialect fuel setting rest.tail)
    let indexed (rest : List Char) : Except Cut (Option Word × List Char) :=
      match dialect, rest with
      | .extended, '[' :: rest =>
        match takeWord dialect fuel (.part ']') rest with
        | .error cut => .error cut
        | .ok (word, rest) => .ok (some word, rest.tail)
      | _, rest => .ok (none, rest)
    match text with
    | '#' :: '\x7d' :: rest => whole "#" none .plain rest
    | '#' :: rest =>
      match parameterName? rest with
      | some (name, rest) =>
        match indexed rest with
        | .error cut => .error cut
        | .ok (index, '\x7d' :: rest) => whole name index .length rest
        | _ => treated "#" none (text.drop 1)
      | none => treated "#" none rest
    | '!' :: rest =>
      match dialect, parameterName? rest with
      | .extended, some (name, behind) =>
        match behind with
        | '\x7d' :: rest => whole name none .indirect rest
        | '*' :: '\x7d' :: rest => whole name none .names rest
        | '@' :: '\x7d' :: rest => whole name none .names rest
        | '[' :: '@' :: ']' :: '\x7d' :: rest => whole name (some [.text "@" quoted]) .indices rest
        | '[' :: '*' :: ']' :: '\x7d' :: rest => whole name (some [.text "*" quoted]) .indices rest
        | _ => if isName name.toList then bad rest else treated "!" none rest
      | _, _ => treated "!" none rest
    | text =>
      match parameterName? text with
      | none => bad text
      | some (name, rest) =>
        match indexed rest with
        | .error cut => .error cut
        | .ok (index, rest) => treated name index rest

end

/-- Enough fuel to read every word of a text. -/
def wordFuel (text : List Char) : Nat :=
  3 * text.length + 3

end HistoryExpansion.Shell
