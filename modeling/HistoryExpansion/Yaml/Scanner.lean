import HistoryExpansion.Yaml.Scanner.Scalar

/-!
# Cutting YAML into tokens

`tokens` cuts a text. Where it is found not to be YAML, the last token is `Token.broken`.
-/

namespace HistoryExpansion.Yaml

namespace Scanner

/-- The greatest number of open flow collections. -/
def deepestFlow : Nat := 255

/-- Cuts the opening bracket or brace of a flow collection. -/
def scanFlowStart (token : Token) (s : Scanner) : Option Scanner :=
  let s := s.saveKey.rollOne
  if s.depth ≥ deepestFlow then none
  else
    let s := { s with depth := s.depth + 1, keys := {} :: s.keys, keyAllowed := true }
    let s :=
      if token = .flowMappingStart then { s with inMapping := true }
      else { s with pairs := none :: s.pairs }
    s.take.takeSpacing.map fun (s, _) => s.push token

/-- Ends the entry of a mapping without braces that is open in the innermost flow sequence. -/
def endPair (s : Scanner) : Scanner :=
  match s.pairs with
  | some depth :: outer =>
    if depth = s.depth then
      push .flowMappingEnd { s with pairs := none :: outer, inMapping := false }
    else s
  | _ => s

/-- Cuts the closing bracket or brace of a flow collection. -/
def scanFlowEnd (token : Token) (s : Scanner) : Option Scanner :=
  if s.depth = 0 then none
  else
    match s.removeKey with
    | none => none
    | some s =>
      let s :=
        if token = .flowSequenceEnd then
          let s := s.endPair
          { s with pairs := s.pairs.tail }
        else s
      let s := { s with depth := s.depth - 1, keys := s.keys.tail, keyAllowed := false }
      s.take.takeSpacing.map fun (s, _) =>
        push token (if s.depth > 0 then { s with adjacentAt := s.index } else s)

/-- Cuts the comma of a flow collection. -/
def scanFlowEntry (s : Scanner) : Option Scanner :=
  match s.removeKey with
  | none => none
  | some s => (s.allowKey true).endPair.take.takeSpacing.map fun (s, _) => s.push .flowEntry

/-- Cuts the dash of a block sequence. -/
def scanBlockEntry (s : Scanner) : Option Scanner :=
  if s.depth > 0 ∨ !s.keyAllowed then none
  else
    let s := roll s.column s.tokens.size .blockSequenceStart s.take
    match s.takeSpacing with
    | none => none
    | some (s, tabs, _) =>
      if tabs && s.peek == '-' && isGap s.peekNext then none
      else
        let s := if isBreak s.peek || isFlow s.peek then s.rollOne else s
        s.removeKey.map fun s => (s.allowKey true).push .blockEntry

/-- Cuts the question mark of a key. -/
def scanKey (s : Scanner) : Option Scanner :=
  if s.depth = 0 ∧ !s.keyAllowed then none
  else
    let s :=
      if s.depth = 0 then roll s.column s.tokens.size .blockMappingStart s
      else { s with inMapping := true }
    match s.removeKey with
    | none => none
    | some s =>
      let s := (s.allowKey (s.depth == 0)).take.takeWhile (· == ' ')
      if s.peek = '\t' then none else some (s.push .key)

/-- Takes the colon of a value. Behind a tab that no space stands beside, a name or a dash cannot
follow. -/
def takeColon (s : Scanner) : Option Scanner :=
  let s := s.take
  if s.peek = '\t' then
    match s.takeSpacing with
    | none => none
    | some (s, _, spaces) => if !spaces && isNameChar s.peek then none else some s
  else some s

/-- Cuts the colon of a value, and with it the key before it if that had not been known for one.
In a flow sequence the two may start a mapping without braces, whose key must stand on the line of
the colon. -/
def scanValue (s : Scanner) : Option Scanner :=
  let place := s.keys.headD {}
  let column := s.column
  let line := s.line
  let startsPair := !s.pairs.isEmpty && !s.inMapping
  let s := if startsPair then { s with pairs := some s.depth :: s.pairs.tail } else s
  match s.takeColon with
  | none => none
  | some s =>
    if place.possible then
      if startsPair ∧ place.line < line then none
      else
        let s := s.insert place.tokenCount .key
        let s := if startsPair then s.insert place.tokenCount .flowMappingStart else s
        let s := (roll place.column place.tokenCount .blockMappingStart s).rollOne
        let s := { s with keys := { place with possible := false } :: s.keys.tail }
        some ((s.allowKey false).push .value)
    else
      let s := if startsPair then s.push .flowMappingStart else s
      if s.depth = 0 ∧ !s.keyAllowed then none
      else
        let s := (roll column s.tokens.size .blockMappingStart s).rollOne
        some ((s.allowKey (s.depth == 0)).push .value)

/-- Cuts an anchor or an alias. -/
def scanAnchor (token : String → Token) (s : Scanner) : Option Scanner :=
  let s := (s.saveKey.allowKey false).take
  let name := s.rest.takeWhile isAnchorChar
  if name.isEmpty then none else some ((takeMany name.length s).push (token (String.ofList name)))

/-! ### Tags and directives -/

/-- Takes an octet that is written in hexadecimal behind a percent sign. -/
def takeOctet (s : Scanner) : Option (Nat × Scanner) :=
  match s.rest with
  | '%' :: high :: low :: _ =>
    match hexValue? high, hexValue? low with
    | some high, some low => some (high * 16 + low, takeMany 3 s)
    | _, _ => none
  | _ => none

/-- The number of octets behind the first one of a character. -/
def octetsBehind? (first : Nat) : Option Nat :=
  if first < 0x80 then some 0
  else if 0xC0 ≤ first ∧ first < 0xE0 then some 1
  else if 0xE0 ≤ first ∧ first < 0xF0 then some 2
  else if 0xF0 ≤ first ∧ first < 0xF8 then some 3
  else none

/-- Takes the octets behind the first one of a character. All octets in a row are its code. -/
def takeOctetsBehind : (count : Nat) → (code : Nat) → Scanner → Option (Nat × Scanner)
  | 0, code, s => some (code, s)
  | count + 1, code, s =>
    match s.takeOctet with
    | none => none
    | some (octet, s) =>
      if 0x80 ≤ octet ∧ octet < 0xC0 then takeOctetsBehind count (code * 0x100 + octet) s else none

/-- Takes a character that is written in octets behind percent signs. -/
def takeOctets (s : Scanner) : Option (Char × Scanner) :=
  match s.takeOctet with
  | none => none
  | some (first, s) =>
    match octetsBehind? first with
    | none => none
    | some count =>
      match takeOctetsBehind count first s with
      | none => none
      | some (code, s) => (charOfCode? code).map (·, s)

/-- Takes the characters of a class of a tag, and those that percent signs write. -/
def takeTagRun (class? : Char → Bool) : (fuel : Nat) → (found : List Char) → Scanner →
    Option (List Char × Scanner)
  | 0, found, s => some (found.reverse, s)
  | fuel + 1, found, s =>
    if s.peek = '%' then
      match s.takeOctets with
      | none => none
      | some (c, s) => takeTagRun class? fuel (c :: found) s
    else if class? s.peek then takeTagRun class? fuel (s.peek :: found) s.take
    else some (found.reverse, s)

/-- Takes a tag from behind its exclamation mark. Gives its handle and what stands behind that. -/
def takeTag (s : Scanner) : Option (String × String × Scanner) :=
  if s.peek = '<' then
    match takeTagRun isUriChar s.rest.length [] s.take with
    | none => none
    | some (suffix, s) =>
      if s.peek = '>' then some ("", String.ofList suffix, s.take) else none
  else
    let name := s.rest.takeWhile isNameChar
    let behind := takeMany name.length s
    if behind.peek = '!' then
      match takeTagRun isTagChar s.rest.length [] behind.take with
      | none => none
      | some (suffix, s) =>
        if suffix.isEmpty then none
        else some ("!" ++ String.ofList name ++ "!", String.ofList suffix, s)
    else
      match takeTagRun isTagChar s.rest.length [] behind with
      | none => none
      | some (rest, s) =>
        let suffix := name ++ rest
        if suffix.isEmpty then some ("", "!", s) else some ("!", String.ofList suffix, s)

/-- Cuts a tag. -/
def scanTag (s : Scanner) : Option Scanner :=
  match takeTag (s.saveKey.allowKey false).take with
  | none => none
  | some (handle, suffix, s) =>
    if isGap s.peek || (s.depth > 0 && isFlow s.peek) then some (s.push (.tag handle suffix))
    else none

/-- Takes a number of a version, of at most nine digits. -/
def takeVersionNumber (s : Scanner) : Option Scanner :=
  let digits := s.rest.takeWhile isDigit
  if digits.isEmpty ∨ digits.length > 9 then none else some (takeMany digits.length s)

/-- Takes a version: two numbers with a point between them. -/
def takeVersion (s : Scanner) : Option Scanner :=
  match s.takeVersionNumber with
  | none => none
  | some s => if s.peek = '.' then s.take.takeVersionNumber else none

/-- Takes the handle of a tag: one exclamation mark, or two with a name or nothing between. -/
def takeHandle (s : Scanner) : Option (String × Scanner) :=
  if s.peek ≠ '!' then none
  else
    let name := s.take.rest.takeWhile isNameChar
    let behind := takeMany name.length s.take
    if behind.peek = '!' then some ("!" ++ String.ofList name ++ "!", behind.take)
    else if name.isEmpty then some ("!", behind)
    else none

/-- Takes what the handle of a tag stands for. -/
def takeHandleExpansion (s : Scanner) : Option (String × Scanner) :=
  if s.peek ≠ '!' ∧ !isTagChar s.peek then none
  else
    match takeTagRun isUriChar s.rest.length [] s with
    | none => none
    | some (expansion, s) => if isGap s.peek then some (String.ofList expansion, s) else none

/-- Takes what stands behind the name of a directive. -/
def takeDirectiveValue (name : String) (s : Scanner) : Option (Directive × Scanner) :=
  if name = "YAML" then (s.takeWhile isSpacing).takeVersion.map (.version, ·)
  else if name = "TAG" then
    match (s.takeWhile isSpacing).takeHandle with
    | none => none
    | some (handle, s) =>
      (s.takeWhile isSpacing).takeHandleExpansion.map fun (expansion, s) =>
        (.handle handle expansion, s)
  else some (.other, s.takeWhile (!isBreakOrEnd ·))

/-- Cuts a line that starts with a percent sign. -/
def scanDirective (s : Scanner) : Option Scanner :=
  match (s.unroll (-1)).removeKey with
  | none => none
  | some s =>
    let s := (s.allowKey false).take
    let name := s.rest.takeWhile isNameChar
    let behind := takeMany name.length s
    if name.isEmpty || !isGap behind.peek then none
    else
      match takeDirectiveValue (String.ofList name) behind with
      | none => none
      | some (directive, s) =>
        match s.takeSpacing with
        | none => none
        | some (s, _) =>
          if isBreak s.peek then some (s.takeBreak.push (.directive directive))
          else if s.peek = endChar then some (s.push (.directive directive))
          else none

/-! ### Documents -/

/-- Cuts the marker of a document, within which no flow collection may be open. -/
def scanMarker (token : Token) (s : Scanner) : Option Scanner :=
  if s.depth > 0 then none
  else (s.unroll (-1)).removeKey.map fun s => (takeMany 3 (s.allowKey false)).push token

/-- Cuts the end of the text, before which all flow collections must be closed. -/
def scanEnd (s : Scanner) : Option Scanner :=
  if s.depth > 0 || s.keys.any fun place => place.possible && place.required then none
  else
    let keys := s.keys.map fun (place : KeyPlace) => { place with possible := false }
    let s := { s with keys := keys }
    some ((s.unroll (-1)).push .streamEnd)

/-- Cuts the token at hand, once what stands before it has been taken. -/
def scanHere (s : Scanner) : Option Scanner :=
  let c := s.peek
  let next := s.peekNext
  if s.column == 0 && c == '%' then s.scanDirective
  else if s.atMarker '-' then s.scanMarker .documentStart
  else if s.atMarker '.' then
    match s.scanMarker .documentEnd with
    | none => none
    | some s =>
      match s.takeSpacing with
      | none => none
      | some (s, _) => if isBreakOrEnd s.peek then some s else none
  else if (s.column : Int) < s.indent && !(s.depth > 0 && (c == ']' || c == '\x7d')) then none
  else if c == '[' then s.scanFlowStart .flowSequenceStart
  else if c == '\x7b' then s.scanFlowStart .flowMappingStart
  else if c == ']' then s.scanFlowEnd .flowSequenceEnd
  else if c == '\x7d' then s.scanFlowEnd .flowMappingEnd
  else if c == ',' then s.scanFlowEntry
  else if c == '-' && isGap next then s.scanBlockEntry
  else if c == '?' && isGap next then s.scanKey
  else if c == ':' && isGap next then s.scanValue
  else if c == ':' && s.depth > 0 && (isFlow next || s.index == s.adjacentAt) then
    if s.index ≠ s.adjacentAt ∧ (next = '[' ∨ next = '\x7b') then none else s.scanValue
  else if c == '*' then s.scanAnchor .alias
  else if c == '&' then s.scanAnchor .anchor
  else if c == '!' then s.scanTag
  else if c == '|' && s.depth == 0 then s.scanBlock true
  else if c == '>' && s.depth == 0 then s.scanBlock false
  else if c == '\'' then s.scanQuoted true
  else if c == '"' then s.scanQuoted false
  else if c == '%' || c == '@' || c == '\x60' then none
  else s.scanPlain

/-- Cuts the tokens up to the next one that is found in the text itself. -/
def scanNext (s : Scanner) : Option Scanner :=
  match s.takeGap with
  | none => none
  | some s =>
    match s.expireKeys with
    | none => none
    | some s =>
      let s := s.unroll (s.column : Int)
      if s.peek = endChar then s.scanEnd else s.scanHere

/-- Cuts tokens until the text ends or is found not to be YAML. -/
def scanAll : (fuel : Nat) → Scanner → Array Token
  | 0, s => s.brokenTokens
  | fuel + 1, s =>
    match s.scanNext with
    | none => s.brokenTokens
    | some s =>
      match s.settle with
      | none => s.brokenTokens
      | some s => if s.tokens.back? = some .streamEnd then s.tokens else scanAll fuel s

end Scanner

/-- The tokens of a text. A byte order mark at its start is no part of it. -/
def tokens (text : List Char) : List Token :=
  let text := if text.head? = some '\uFEFF' then text.tail else text
  (Scanner.scanAll (text.length + 2) { rest := text }).toList

end HistoryExpansion.Yaml
