import HistoryExpansion.Shell.Brace
import HistoryExpansion.Shell.Parameter

/-!
# What words become

Parameters, commands and arithmetic within a word are replaced by text, and tildes by directories.
The result is cut into fields, which then stand for the paths that they match.
-/

namespace HistoryExpansion.Shell

/-! ## Pieces -/

/-- Runs a command and leaves what it writes in a file, whose path takes the command's place. -/
def channelPath (below : Interpreter) (reads : Bool) (command : String) : Effect String := do
  let number := 63 - (← own).channels
  changeOwn fun own => { own with channels := own.channels + 1 }
  let path := "/dev/fd/" ++ toString number
  let content ← if reads then octetsWritten below command else pure []
  let _ ← changeDisk (Disk.writeWithParents path content)
  if reads then
    let stream ← openStream (.source content false)
    changeOwn fun own => { own with descriptors := rebind number stream own.descriptors }
  else changeOwn fun own => { own with receivers := (number, command) :: own.receivers }
  return path

/-- What a piece becomes. -/
def expandPiece (below : Interpreter) : Piece → Effect (List Bit)
  | .text content quoted => return bitsOf (if quoted then .quoted else .written) content
  | .parameter name index treatment words quoted =>
    expandParameter below name index treatment words quoted
  | .output command quoted => do
    return bitsOf (if quoted then .quoted else .found) (← outputOf below command)
  | .arithmetic expression quoted => do
    let value ← arithmeticValue (textOf (← below.expand expression))
    return bitsOf (if quoted then .quoted else .found) (toString value.toInt)
  | .channel reads command => do
    return bitsOf .quoted (← channelPath below reads command)
  | .items _ _ _ => return []

/-! ## Directories of users -/

/-- The directory of a user, as the list of users on the disk has it. -/
def homeOf? (disk : Disk) (user : String) : Option String :=
  match disk.read "/etc/passwd" with
  | .error _ => none
  | .ok octets =>
    (Text.splitAtEach '\n' (Utf8.decodeLossy octets)).findSome? fun line =>
      match Text.splitAtEach ':' line with
      | [name, _, _, _, _, home, _] =>
        if String.ofList name = user then some (String.ofList home) else none
      | _ => none

/-- The directory that the text behind a tilde stands for. -/
def tildeTarget? (user : String) : Effect (Option String) := do
  if user = "" then value? "HOME"
  else if user = "+" ∧ (← isExtended) then value? "PWD"
  else if user = "-" ∧ (← isExtended) then value? "OLDPWD"
  else return homeOf? (← diskHere) user

/-- The pieces of a text that starts with a tilde, if it stands for a directory. `ends` tells that
nothing follows the text, and `stops` that a colon ends the name too. -/
def tildePieces (ends stops : Bool) (text : List Char) : Effect Word := do
  match text with
  | '~' :: behind =>
    let user := behind.takeWhile fun c => c ≠ '/' && !(stops && c = ':')
    let rest := behind.drop user.length
    if rest.isEmpty ∧ !ends then return [.text (String.ofList text) false]
    match ← tildeTarget? (String.ofList user) with
    | some home => return [.text home true, .text (String.ofList rest) false]
    | none => return [.text (String.ofList text) false]
  | text => return [.text (String.ofList text) false]

/-- A word whose leading tilde stands for a user's directory. -/
def withHome (word : Word) : Effect Word := do
  match word with
  | .text content false :: rest =>
    return (← tildePieces rest.isEmpty false content.toList) ++ rest
  | _ => return word

/-- A value to be assigned, in which tildes also count behind colons. -/
def withHomes (word : Word) : Effect Word := do
  match word with
  | .text content false :: rest =>
    let parts := Text.splitAtEach ':' content.toList
    let count := parts.length
    let pieces ← parts.zipIdx.mapM fun (part, i) => do
      let found ← tildePieces (i + 1 < count || rest.isEmpty) true part
      return if i = 0 then found else .text ":" false :: found
    return pieces.flatten ++ rest
  | _ => return word

/-! ## Words -/

/-- What a word becomes. -/
def expandWord (below : Interpreter) (word : Word) : Effect (List Bit) := do
  let parts ← (← withHome word).mapM (expandPiece below)
  return parts.flatten

/-- The texts that words become. -/
def expandWords (below : Interpreter) (words : List Word) : Effect (List String) := do
  let extended ← isExtended
  let words := if extended then words.flatMap wordsOfBraces else words
  let parts ← words.mapM fun word => do
    let fields := fieldsOf (← separators) (← below.expand word)
    let disk ← diskHere
    let options := (← own).options
    let dropsUnmatched := extended && options.further.contains "nullglob"
    return fields.flatMap (textsOf disk (!options.keepsPatterns) dropsUnmatched)
  return parts.flatten

/-- The one text that a word becomes. -/
def expandText (below : Interpreter) (word : Word) : Effect String := do
  return textOf (← below.expand word)

end HistoryExpansion.Shell
