import HistoryExpansion.Shell.Builtin.Basic

/-!
# Commands that read

Reading a line of the input into variables, all of its lines into a list, and the options that
arguments hold.
-/

namespace HistoryExpansion.Shell.Builtin

/-! ## Lines -/

/-- How a line is read. -/
structure LineRules where
  /-- Whether a backslash stands for itself. -/
  raw : Bool := false
  /-- The character that ends the line. -/
  delimiter : Char := '\n'
  /-- The number of characters that are read at most. -/
  most : Option Nat := none
  /-- Whether only the number of characters ends the line. -/
  exact : Bool := false

/-- Takes a line from characters: its characters with those that a backslash keeps from parting it,
what follows it, and whether it was whole. -/
def takeLine (rules : LineRules) : (fuel : Nat) → (left : Option Nat) → List Char →
    List Bit × List Char × Bool
  | 0, _, text => ([], text, false)
  | _, some 0, text => ([], text, true)
  | _, _, [] => ([], [], false)
  | fuel + 1, left, c :: rest =>
    let add (bit : Bit) (rest : List Char) : List Bit × List Char × Bool :=
      let (bits, rest, ended) := takeLine rules fuel (left.map (· - 1)) rest
      (bit :: bits, rest, ended)
    if c = rules.delimiter ∧ !rules.exact then ([], rest, true)
    else if c = '\\' ∧ !rules.raw then
      match rest with
      | '\n' :: rest => takeLine rules fuel left rest
      | d :: rest => add (.char d .quoted) rest
      | [] => ([], [], false)
    else add (.char c .found) rest

/-- The fields of a line for so many names; the last one gets all that is left. -/
def lineFields (separators : List Char) : (names : Nat) → List Bit → List String
  | 0, _ => []
  | names + 1, bits =>
    let isSeparator (bit : Bit) : Bool :=
      match bit with
      | .char c .found => separators.contains c
      | _ => false
    let isBlank (bit : Bit) : Bool :=
      match bit with
      | .char c .found => separators.contains c && isBlankSeparator c
      | _ => false
    let bits := bits.dropWhile isBlank
    match names with
    | 0 => [textOf (bits.reverse.dropWhile isBlank).reverse]
    | names + 1 =>
      let field := bits.takeWhile fun bit => !isSeparator bit
      let rest := (bits.drop field.length).dropWhile isBlank
      let rest :=
        match rest with
        | .char c .found :: behind =>
          let wasBlank := ((bits.drop field.length).head?.map isBlank).getD false
          if separators.contains c && (!wasBlank || !isBlankSeparator c) then behind else rest
        | rest => rest
      textOf field :: lineFields separators (names + 1) rest

/-- What the options of a command that reads ask for. -/
structure ReadOptions where
  /-- How the line is read. -/
  rules : LineRules := {}
  /-- The list that gets the fields. -/
  list : Option String := none
  /-- The descriptor that is read from. -/
  descriptor : Nat := 0
  /-- The names of the variables. -/
  names : List String := []

/-- Reads the options of a command that reads. -/
def readOptions : (fuel : Nat) → List String → ReadOptions → Except String ReadOptions
  | 0, words, options => .ok { options with names := words }
  | _, [], options => .ok options
  | fuel + 1, word :: rest, options =>
    match word.toList with
    | ['-', '-'] => .ok { options with names := rest }
    | '-' :: c :: letters =>
      let valued (change : String → ReadOptions) : Except String ReadOptions :=
        if letters.isEmpty then
          match rest with
          | value :: rest => readOptions fuel rest (change value)
          | [] => .error ("-" ++ String.ofList [c] ++ ": option requires an argument")
        else readOptions fuel rest (change (String.ofList letters))
      let plainly (options : ReadOptions) : Except String ReadOptions :=
        if letters.isEmpty then readOptions fuel rest options
        else readOptions fuel (String.ofList ('-' :: letters) :: rest) options
      let rules := options.rules
      match c with
      | 'r' => plainly { options with rules := { rules with raw := true } }
      | 's' => plainly options
      | 'e' => plainly options
      | 'a' => valued fun value => { options with list := some value }
      | 'd' => valued fun value =>
          { options with rules := { rules with delimiter := value.toList.headD '\x00' } }
      | 'n' => valued fun value =>
          { options with rules := { rules with most := some (decimal value.toList) } }
      | 'N' => valued fun value =>
          { options with
            rules := { rules with most := some (decimal value.toList), exact := true } }
      | 'u' => valued fun value => { options with descriptor := decimal value.toList }
      | 'p' => valued fun _ => options
      | 't' => valued fun _ => options
      | 'i' => valued fun _ => options
      | c => .error ("-" ++ String.ofList [c] ++ ": invalid option")
    | _ => .ok { options with names := word :: rest }

/-- Reads a line into variables or into a list. -/
def readLineInto (options : ReadOptions) : Effect Nat := do
  let octets ← remaining options.descriptor
  let text := Utf8.decodeLossy octets
  let rules := options.rules
  let (bits, rest, ended) := takeLine rules (text.length + 1) rules.most text
  keepUnread options.descriptor (if ended then Utf8.encode rest else [])
  let separators := (← separators).toList
  match options.list with
  | some list =>
    let texts := (fieldsOf (String.ofList separators) bits).map plainText
    assignItems list (.ofTexts 0 texts)
  | none =>
    if options.names.isEmpty then
      let extended ← isExtended
      let field := if extended then [textOf bits] else lineFields separators 1 bits
      assign "REPLY" (field.headD "")
    else
      let extended ← isExtended
      let fields :=
        if rules.exact then [textOf bits] ++ options.names.map fun _ => ""
        else lineFields separators options.names.length bits
      for (name, field) in options.names.zip fields do
        match referenceOf name with
        | (base, some [.text index _]) => assignItem base index field
        | (base, _) =>
          checkName (if extended then base else name)
          assignText base false field
  return if ended then 0 else 1

/-- Reads a line into variables. -/
def read : Builtin := fun arguments => do
  if ← isExtended then
    match readOptions (2 * arguments.length + 8) arguments {} with
    | .ok options => readLineInto options
    | .error message =>
      complain message
      writeText 2 ("read: usage: read [-ers] [-a array] [-d delim] [-i text] [-n nchars] " ++
        "[-N nchars] [-p prompt] [-t timeout] [-u fd] [name ...]\n")
      return 2
  else
    let raw := arguments.contains "-r"
    let names :=
      match arguments.filter fun word => word ≠ "-r" with
      | "-p" :: _ :: names => names
      | names => names
    if names.isEmpty then fail "arg count"
    readLineInto { rules := { raw := raw }, names := names }

/-- Reads all lines into a list. -/
def readAllLines : Builtin := fun arguments => do
  let rec go : (fuel : Nat) → List String → (trims : Bool) → (delimiter : Char) →
      (most skipped first : Nat) → (descriptor : Nat) → Effect Nat
    | 0, _, _, _, _, _, _, _ => return 0
    | fuel + 1, words, trims, delimiter, most, skipped, first, descriptor => do
      match words with
      | "-t" :: rest => go fuel rest true delimiter most skipped first descriptor
      | "-d" :: text :: rest =>
        go fuel rest trims (text.toList.headD '\x00') most skipped first descriptor
      | "-n" :: count :: rest =>
        go fuel rest trims delimiter (decimal count.toList) skipped first descriptor
      | "-s" :: count :: rest =>
        go fuel rest trims delimiter most (decimal count.toList) first descriptor
      | "-O" :: count :: rest =>
        go fuel rest trims delimiter most skipped (decimal count.toList) descriptor
      | "-u" :: number :: rest =>
        go fuel rest trims delimiter most skipped first (decimal number.toList)
      | words =>
        let text := Utf8.decodeLossy (← remaining descriptor)
        keepUnread descriptor []
        let parts := Text.splitAtEach delimiter text
        let parts := if parts.getLast? = some [] then parts.dropLast else parts.map id
        let ended := text.getLast? = some delimiter
        let lines := parts.zipIdx.map fun (part, i) =>
          String.ofList (if trims ∨ (i + 1 = parts.length ∧ !ended) then part
            else part ++ [delimiter])
        let lines := lines.drop skipped
        let lines := if most = 0 then lines else lines.take most
        assignItems (words.headD "MAPFILE") (.ofTexts first lines)
        return 0
  go (arguments.length + 1) arguments false '\n' 0 0 0 0

/-! ## Options of arguments -/

/-- What a letter among arguments is. -/
inductive LetterFound where
  /-- There are no further ones. -/
  | none
  /-- A letter, with its value if it has one. -/
  | known (letter : Char) (value : Option String)
  /-- A letter that is not looked for. -/
  | unknown (letter : Char)
  /-- A letter whose value is missing. -/
  | valueless (letter : Char)

/-- Finds the next letter among arguments, from the argument with a number on, of which so many
letters were read. Gives where to go on. -/
def nextLetter (known : List Char) (words : List String) (index lettersRead : Nat) :
    LetterFound × Nat × Nat :=
  let word := (words[index - 1]?).getD ""
  let letters := word.toList.drop 1
  if lettersRead = 0 ∧ (!word.startsWith "-" ∨ word = "-" ∨ index > words.length) then
    (.none, index, 0)
  else if lettersRead = 0 ∧ word = "--" then (.none, index + 1, 0)
  else
    match letters.drop lettersRead with
    | [] => (.none, index, 0)
    | c :: rest =>
      let place := known.idxOf c
      let wants := known[place + 1]? = some ':'
      if c = ':' ∨ !known.contains c then
        (.unknown c, if rest.isEmpty then index + 1 else index,
          if rest.isEmpty then 0 else lettersRead + 1)
      else if wants then
        if !rest.isEmpty then (.known c (some (String.ofList rest)), index + 1, 0)
        else
          match words[index]? with
          | some value => (.known c (some value), index + 2, 0)
          | Option.none => (.valueless c, index + 1, 0)
      else
        (.known c Option.none, if rest.isEmpty then index + 1 else index,
          if rest.isEmpty then 0 else lettersRead + 1)

/-- Reads the next option of arguments into a variable. -/
def readOption : Builtin := fun arguments => do
  match arguments with
  | letters :: name :: rest =>
    let own ← own
    let words := if rest.isEmpty then own.arguments else rest
    let quiet := letters.startsWith ":"
    let index := decimal ((← value? "OPTIND").getD "1").toList
    let (found, next, lettersRead) :=
      nextLetter letters.toList words (max index 1)
        (if own.letterIndex = index then own.lettersRead else 0)
    assign "OPTIND" (toString next)
    changeOwn fun own => { own with lettersRead := lettersRead, letterIndex := next }
    let say (plain extended : String) : Effect Unit := do
      if !quiet then
        if own.dialect.isExtended then writeText 2 (own.name ++ ": " ++ extended ++ "\n")
        else writeText 2 (plain ++ "\n")
    let clear : Effect Unit :=
      changeOwn fun own => { own with bindings := own.bindings.filter (·.1 ≠ "OPTARG") }
    match found with
    | .none =>
      assign name "?"
      return 1
    | .known c value =>
      assign name (String.ofList [c])
      match value with
      | some value => assign "OPTARG" value
      | Option.none => clear
      return 0
    | .unknown c =>
      let letter := String.ofList [c]
      say ("Illegal option -" ++ letter) ("illegal option -- " ++ letter)
      assign name "?"
      if quiet then assign "OPTARG" letter else clear
      return 0
    | .valueless c =>
      let letter := String.ofList [c]
      say ("No arg for -" ++ letter ++ " option") ("option requires an argument -- " ++ letter)
      assign name (if quiet then ":" else "?")
      if quiet then assign "OPTARG" letter else clear
      return 0
  | _ =>
    if ← isExtended then
      writeText 2 "getopts: usage: getopts optstring name [arg ...]\n"
      return 2
    else fail "Usage: getopts optstring var [arg...]"

end HistoryExpansion.Shell.Builtin
