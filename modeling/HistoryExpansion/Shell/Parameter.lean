import HistoryExpansion.Shell.Shown
import HistoryExpansion.Shell.Subshell

/-!
# Parameters

What a parameter stands for, an item of a list or all of its items, and what becomes of that by the
treatment that is asked for.
-/

namespace HistoryExpansion.Shell

/-! ## Parameters -/

/-- The letters of the options that are set. -/
def Options.letters (options : Options) : String :=
  String.ofList
    ((if options.exportsAll then ['a'] else []) ++ (if options.endsOnFailure then ['e'] else []) ++
      (if options.keepsPatterns then ['f'] else []) ++ (if options.onlyReads then ['n'] else []) ++
      (if options.needsValues then ['u'] else []) ++ (if options.traces then ['x'] else []) ++
      (if options.keepsFiles then ['C'] else []))

/-- The letters of the options of a shell of the extended dialect. -/
def Options.extendedLetters (options : Options) : String :=
  String.ofList
    ((if options.exportsAll then ['a'] else []) ++ (if options.endsOnFailure then ['e'] else []) ++
      (if options.keepsPatterns then ['f'] else []) ++ ['h'] ++
      (if options.onlyReads then ['n'] else []) ++ (if options.needsValues then ['u'] else []) ++
      (if options.traces then ['x'] else []) ++ ['B'] ++
      (if options.keepsFiles then ['C'] else []) ++ ['c'])

/-- The separators of fields. -/
def separators : Effect String := do
  return (← value? "IFS").getD usualSeparators

/-- Texts as one, with the first separator between them. -/
def joinedTexts (texts : List String) : Effect String := do
  return String.intercalate (String.ofList ((← separators).toList.take 1)) texts

/-- The arguments as one text, if there are any. -/
def joinedArguments : Effect (Option String) := do
  match (← own).arguments with
  | [] => return none
  | arguments => return some (← joinedTexts arguments)

/-- The values of the variables that a shell of the extended dialect keeps by itself. -/
def Own.keptValue? (own : Own) (name : String) : Option String :=
  match name with
  | "BASHPID" => some (toString own.process)
  | "FUNCNAME" => own.callers.head?
  | "PIPESTATUS" => own.statuses.head?.map toString
  | "_" => some own.lastWord
  | "UID" => some "0"
  | "EUID" => some "0"
  | "BASH_SUBSHELL" => some "0"
  | "SECONDS" => some "0"
  | "RANDOM" => some "16838"
  | "DIRSTACK" => some (Path.ofParts true own.here)
  | _ => none

/-- The value of a parameter, if it is set. -/
def parameter? (name : String) : Effect (Option String) := do
  let own ← own
  match name with
  | "?" => return some (toString own.status)
  | "#" => return some (toString own.arguments.length)
  | "$" => return some (toString own.process)
  | "!" => return own.lastChild.map toString
  | "-" =>
    return some (if own.dialect.isExtended then own.options.extendedLetters
      else own.options.letters)
  | "@" => joinedArguments
  | "*" => joinedArguments
  | name =>
    if name = "LINENO" ∧ own.dialect.isExtended then return some (toString own.line)
    else if (name.toList.head?.map isDigit).getD false then
      match decimal name.toList with
      | 0 => return some own.name
      | n + 1 => return own.arguments[n]?
    else
      match ← value? name with
      | some value => return some value
      | none => return if own.dialect.isExtended then own.keptValue? name else none

/-- Fails because a variable is not set. -/
def failUnset {α : Type} (name : String) : Effect α :=
  failAs (name ++ ": parameter not set") (name ++ ": unbound variable") valueNeeded

/-! ## Arithmetic -/

/-- The text of a variable or of an item. -/
def Own.textOf? (own : Own) (cell : Cell) : Option String := do
  let binding ← own.bindings.lookup cell.name
  match cell.index, binding.items with
  | none, _ => binding.value
  | some index, some items => items.get? index
  | some index, none => if index = "0" then binding.value else none

/-- Whether a variable has items by keys. -/
def Own.hasKeys (own : Own) (name : String) : Bool :=
  ((own.bindings.lookup name).bind Binding.items).any Items.hasKeys

/-- Gives an item of a list a value. -/
def assignItem (name index value : String) : Effect Unit := do
  let name ← meant name
  let items :=
    match ← binding? name with
    | some { items := some items, .. } => items
    | some { value := some value, .. } => .numbered [(0, value)]
    | _ => .numbered []
  assignItems name (items.set index value)

/-- The value of the text of an arithmetic expression. -/
def arithmeticValue (text : String) : Effect Int64 := do
  let own ← own
  let kept (cell : Cell) : Option String :=
    (own.textOf? cell).or
      (if !own.dialect.isExtended then none
        else if cell.name = "LINENO" then some (toString own.line)
        else own.keptValue? cell.name)
  match evaluate ⟨own.dialect, kept, own.hasKeys⟩ text with
  | .error .overflow => throw (.crashed 8)
  | .error fault =>
    let shown := String.ofList (dropSpace text.toList)
    failAs (fault.plainMessage text) (fault.extendedMessage shown)
  | .ok (value, given) =>
    for (cell, value) in given.reverse do
      match cell.index with
      | none => assign cell.name (toString value.toInt)
      | some index => assignItem cell.name index (toString value.toInt)
    return value

/-! ## Lists -/

/-- What a parameter stands for: one value, or several at once. -/
inductive Subject where
  /-- One value, if it is set. -/
  | one (value : Option String)
  /-- Several values; with the flag they are one text where they are quoted. -/
  | several (values : List String) (joined : Bool)

/-- The items of a variable, of which there is one if it is no list. -/
def itemsOf (name : String) : Effect (List String) := do
  let own ← own
  if name = "PIPESTATUS" ∧ own.dialect.isExtended then return own.statuses.map toString
  if name = "FUNCNAME" ∧ own.dialect.isExtended then return own.callers
  match ← binding? (← meant name) with
  | some { items := some items, .. } => return items.values
  | binding => return (binding.bind Binding.value).toList

/-- The index that a word is for a list. A negative one counts from the end. -/
def indexOf (below : Interpreter) (name : String) (word : Word) : Effect (Option String) := do
  let name ← meant name
  let text := textOf (← below.expand word)
  if (← own).hasKeys name then return some text
  let value ← arithmeticValue text
  if value ≥ 0 then return some (toString value.toInt)
  let next :=
    match (← binding? name).bind Binding.items with
    | some items => items.next
    | none => 1
  let index := (next : Int) + value.toInt
  if index < 0 then return none else return some (toString index)

/-- The item of a variable at an index. -/
def itemAt? (below : Interpreter) (name : String) (word : Word) : Effect (Option String) := do
  match ← indexOf below name word with
  | none =>
    complain (name ++ ": bad array subscript")
    return none
  | some index =>
    let values ← itemsOf name
    if name = "PIPESTATUS" ∨ name = "FUNCNAME" then return values[decimal index.toList]?
    return (← own).textOf? ⟨← meant name, some index⟩

/-- What a parameter with an index stands for. -/
def subjectOf (below : Interpreter) (name : String) (index : Option Word) : Effect Subject := do
  match index with
  | none =>
    if name = "@" then return .several (← own).arguments false
    else if name = "*" then return .several (← own).arguments true
    else return .one (← parameter? name)
  | some [.text "@" _] => return .several (← itemsOf name) false
  | some [.text "*" _] => return .several (← itemsOf name) true
  | some word => return .one (← itemAt? below name word)

/-- Several texts as fields of their own, or as one where they are quoted and joined. -/
def severalBits (quoted joined : Bool) (texts : List String) : Effect (List Bit) := do
  let origin := if quoted then Origin.quoted else .found
  if joined ∧ quoted then return bitsOf origin (← joinedTexts texts)
  else return ((texts.map (bitsOf origin)).intersperse [.boundary]).flatten

/-! ## Treatments -/

/-- The part of a list from a place on, of a length if there is one. Negative numbers count from the
end. -/
def sliceOf {α : Type} (items : List α) (offset : Int) (length : Option Int) : List α :=
  let size : Int := items.length
  let start := if offset < 0 then size + offset else offset
  if start < 0 ∨ start > size then []
  else
    let stop := match length with
      | none => size
      | some length => if length < 0 then size + length else start + length
    (items.drop start.toNat).take (stop - start).toNat

/-- The lengths of a text, longest first. -/
def lengthsOf (chars : List Char) : List Nat :=
  (List.range (chars.length + 1)).reverse

/-- The text that takes the place of a match. A sign for the match may stand in it. -/
def replacementOf (replacement : List Glyph) (found : List Char) : List Char :=
  replacement.flatMap fun glyph =>
    if glyph.char = '&' ∧ !glyph.quoted then found else octetChars [glyph.char]

/-- A text with matches of a pattern replaced from left to right. -/
def replaceMatches (pattern : List Mark) (replacement : List Glyph) (all : Bool) :
    (fuel : Nat) → List Char → List Char
  | 0, text => text
  | _, [] => []
  | fuel + 1, c :: rest =>
    let text := c :: rest
    match (lengthsOf text).find? fun n => n > 0 && matchMarks pattern (text.take n) with
    | none => c :: replaceMatches pattern replacement all fuel rest
    | some n =>
      let behind := text.drop n
      replacementOf replacement (text.take n) ++
        if all then replaceMatches pattern replacement all fuel behind else behind

/-- A text with a match of a pattern replaced. -/
def replacedIn (which : Replacing) (pattern replacement : List Glyph) (text : String) : String :=
  let chars := octetChars text.toList
  let marks := marksOf pattern
  let result :=
    match which with
    | .atStart =>
      match (lengthsOf chars).find? fun n => matchMarks marks (chars.take n) with
      | some n => replacementOf replacement (chars.take n) ++ chars.drop n
      | none => chars
    | .atEnd =>
      match (List.range (chars.length + 1)).find? fun n => matchMarks marks (chars.drop n) with
      | some n => chars.take n ++ replacementOf replacement (chars.drop n)
      | none => chars
    | which =>
      if pattern.isEmpty then chars
      else replaceMatches marks replacement (which == .all) (chars.length + 1) chars
  String.ofList (ofOctetChars result)

/-- A text in capital or in small letters; only those that fit a pattern, if there is one. -/
def inLetters (capital whole : Bool) (pattern : List Glyph) (text : String) : String :=
  let change (c : Char) : Char :=
    if pattern.isEmpty ∨ fitsPattern pattern [c] then (if capital then c.toUpper else c.toLower)
    else c
  match text.toList with
  | [] => ""
  | c :: rest => String.ofList (change c :: if whole then rest.map change else rest)

/-- A value as a letter says. -/
def shownAs (letter : Char) (value : String) : String :=
  match letter with
  | 'Q' => shellQuoted value
  | 'K' => shellQuoted value
  | 'U' => value.toUpper
  | 'L' => value.toLower
  | 'u' => inLetters true false [] value
  | 'E' =>
    match takeEscaped (value.length + 2) [] (value.toList ++ ['\'']) with
    | .ok (text, _) => String.ofList text
    | .error _ => value
  | _ => value

/-- The parts of what a word becomes within a parameter. -/
def presentBits (quoted : Bool) (bits : List Bit) : List Bit :=
  if bits.isEmpty && quoted then [.nothing] else bits.map Bit.asFound

/-- The numbers that the words of a slice are. -/
def sliceNumbers (below : Interpreter) (words : List Word) : Effect (Int × Option Int) := do
  let number (word : Word) : Effect Int := do
    return (← arithmeticValue (textOf (← below.expand word))).toInt
  match words with
  | [] => return (0, none)
  | [offset] => return (← number offset, none)
  | offset :: length :: _ => return (← number offset, some (← number length))

/-- The part of a value that a slice takes. -/
def sliceText (offset : Int) (length : Option Int) (value : String) : String :=
  String.ofList (ofOctetChars (sliceOf (octetChars value.toList) offset length))

/-- What the value of a parameter becomes by a treatment that changes it. -/
def treated (below : Interpreter) (treatment : Treatment) (words : List Word) :
    Effect (String → String) := do
  let glyphs (n : Nat) : Effect (List Glyph) := do
    return glyphsOf (← below.expand (words.getD n []))
  match treatment with
  | .cutStart longest =>
    let pattern ← glyphs 0
    return fun value => String.ofList (cutAtStart longest pattern value.toList)
  | .cutEnd longest =>
    let pattern ← glyphs 0
    return fun value => String.ofList (cutAtEnd longest pattern value.toList)
  | .replace which => return replacedIn which (← glyphs 0) (← glyphs 1)
  | .letters capital whole => return inLetters capital whole (← glyphs 0)
  | .shown letter => return shownAs letter
  | _ => return id

/-- Fails because a parameter is not set, with a text of its own if there is one. -/
def failDemanded {α : Type} (below : Interpreter) (name : String) (orEmpty : Bool)
    (words : List Word) : Effect α := do
  let text := textOf (← below.expand (words.headD []))
  let given := !(words.headD []).isEmpty
  let usual := if orEmpty then "parameter not set or null" else "parameter not set"
  let worded := if orEmpty then "parameter null or not set" else "parameter not set"
  failAs (name ++ ": " ++ if given then text else usual)
    (name ++ ": " ++ if given then text else worded) valueNeeded

/-- What a parameter becomes. -/
def expandSubject (below : Interpreter) (name : String) (index : Option Word)
    (treatment : Treatment) (words : List Word) (quoted : Bool) : Effect (List Bit) := do
  let origin := if quoted then Origin.quoted else .found
  let subject ← subjectOf below name index
  let word := words.headD []
  let whole : Effect (List Bit) := do
    match subject with
    | .one value => return bitsOf origin (value.getD "")
    | .several values joined => severalBits quoted joined values
  let isSet (countsEmpty : Bool) : Bool :=
    match subject with
    | .one none => false
    | .one (some value) => !countsEmpty || value ≠ ""
    | .several [] _ => false
    | .several [value] _ => !countsEmpty || value ≠ ""
    | .several _ _ => true
  let joinsIndices :=
    match index with
    | some [.text "*" _] => true
    | _ => false
  let demanded : Effect Unit := do
    match subject with
    | .one none => if (← own).options.needsValues then failUnset name
    | _ => return
  match treatment with
  | .plain =>
    demanded
    whole
  | .length =>
    demanded
    match subject with
    | .one value => return bitsOf origin (toString (value.getD "").utf8ByteSize)
    | .several values _ => return bitsOf origin (toString values.length)
  | .orElse orEmpty =>
    if isSet orEmpty then whole else return presentBits quoted (← below.expand word)
  | .assign orEmpty =>
    if isSet orEmpty then whole
    else
      let text := textOf (← below.expand word)
      assign name text
      return bitsOf origin text
  | .demand orEmpty => if isSet orEmpty then whole else failDemanded below name orEmpty words
  | .instead unlessEmpty =>
    return presentBits quoted (← if isSet unlessEmpty then below.expand word else pure [])
  | .slice =>
    demanded
    let (offset, length) ← sliceNumbers below words
    match subject with
    | .one value => return bitsOf origin (sliceText offset length (value.getD ""))
    | .several values joined =>
      let name := (← own).name
      let values := if index.isNone then name :: values else values
      let values := if index.isNone ∧ offset < 0 ∧ values.length = 1 then [] else values
      severalBits quoted joined (sliceOf values offset length)
  | .indices =>
    match (← binding? (← meant name)).bind Binding.items with
    | some items => severalBits quoted joinsIndices items.indices
    | none => severalBits quoted false (if isSet false then ["0"] else [])
  | .names =>
    let found := ((← own).bindings.map Prod.fst).filter name.isPrefixOf
    severalBits quoted false (found.mergeSort fun a b => a ≤ b)
  | .bad text =>
    failAs "Bad substitution" ("$\x7b" ++ text ++ "\x7d: bad substitution")
  | treatment =>
    demanded
    let change ← treated below treatment words
    match subject, (← own).dialect with
    | .several values joined, .extended => severalBits quoted joined (values.map change)
    | .several values _, .plain => return bitsOf origin (change (← joinedTexts values))
    | .one value, _ => return bitsOf origin (change (value.getD ""))

/-- The name and the index that a text writes. -/
def referenceOf (text : String) : String × Option Word :=
  match parameterName? text.toList with
  | some (name, '[' :: rest) =>
    match takeIndexText 0 [] rest with
    | some (index, _) =>
      let word :=
        match takeWord .extended (wordFuel index) (.part ']') index with
        | .ok (word, _) => word
        | .error _ => [.text (String.ofList index) false]
      (name, some (if index = ['@'] ∨ index = ['*'] then [.text (String.ofList index) false]
        else if word.isEmpty then [.text (String.ofList index) false] else word))
    | none => (name, none)
  | some (name, _) => (name, none)
  | none => (text, none)

/-- What a parameter becomes, or the one that its value names. -/
def expandParameter (below : Interpreter) (name : String) (index : Option Word)
    (treatment : Treatment) (words : List Word) (quoted : Bool) : Effect (List Bit) := do
  match treatment with
  | .indirect =>
    match ← parameter? name with
    | none => fail (name ++ ": invalid indirect expansion") 1
    | some other =>
      let (name, index) := referenceOf other
      expandSubject below name index .plain [] quoted
  | treatment => expandSubject below name index treatment words quoted

end HistoryExpansion.Shell
