import HistoryExpansion.Shell.Expand

/-!
# Redirections

A redirection gives a descriptor another stream for the time of a command. One that cannot be done
is complained about, and then the command is not run.
-/

namespace HistoryExpansion.Shell

/-- The descriptor that a path of a device stands for. -/
def deviceDescriptor? (path : String) : Option Nat :=
  match path with
  | "/dev/stdin" => some 0
  | "/dev/stdout" => some 1
  | "/dev/stderr" => some 2
  | path => (Text.after? "/dev/fd/".toList path.toList).bind fun digits =>
      if digits.isEmpty ∨ !digits.all isDigit then none else some (decimal digits)

/-- Gives a descriptor a stream. -/
def attach (descriptor number : Nat) : Effect Unit :=
  changeOwn fun own => { own with descriptors := rebind descriptor number own.descriptors }

/-- Takes a descriptor's stream away. -/
def detach (descriptor : Nat) : Effect Unit :=
  changeOwn fun own => { own with descriptors := own.descriptors.filter (·.1 ≠ descriptor) }

/-- Makes a descriptor stand for the stream of another one. -/
def duplicate (descriptor other : Nat) : Effect Bool := do
  match (← own).descriptors.lookup other with
  | some number =>
    attach descriptor number
    return true
  | none =>
    complain (toString other ++ ": Bad file descriptor")
    return false

/-- The wording of an error of opening a file for reading. -/
def openingReason : DiskError → String
  | .notFound => "No such file"
  | error => error.reason

/-- The wording of an error of opening a file for writing. -/
def creatingReason : DiskError → String
  | .notFound => "Directory nonexistent"
  | error => error.reason

/-- Complains that a file cannot be opened for reading. -/
def refuseInput (path : String) (error : DiskError) : Effect Bool := do
  complainAs ("cannot open " ++ path ++ ": " ++ openingReason error) (path ++ ": " ++ error.reason)
  return false

/-- Complains that a file cannot be opened for writing. -/
def refuseOutput (path : String) (error : DiskError) : Effect Bool := do
  complainAs ("cannot create " ++ path ++ ": " ++ creatingReason error)
    (path ++ ": " ++ error.reason)
  return false

/-- Opens a file for reading. -/
def openInput (descriptor : Nat) (path : String) : Effect Bool := do
  let disk ← diskHere
  match disk.locate path, disk.find path with
  | .ok place, .ok entry =>
    let stream : Stream :=
      match entry with
      | .directory => .source [] false
      | .device .null => .void
      | .device _ => .source (List.replicate manyZeros 0) true
      | _ => .file place 0 false true false
    attach descriptor (← openStream stream)
    return true
  | _, .error error => refuseInput path error
  | .error error, _ => refuseInput path error

/-- Whether a file may not be overwritten. -/
def isKept (options : Options) (entry : Option Entry) : Bool :=
  match entry with
  | some (.device _) => false
  | some _ => options.keepsFiles
  | none => false

/-- Opens a file for writing, and makes it if it is not there. Gives the number of its stream. -/
def openForWriting (path : String) (empties atEnd readable : Bool) :
    Effect (Except DiskError Nat) := do
  let disk ← diskHere
  match disk.locate path with
  | .error error => return .error error
  | .ok place =>
    match disk.entry? place with
    | some .directory => return .error .isDirectory
    | some (.device device) =>
      return .ok (← openStream (if device = .full then .full else .void))
    | found =>
      let result ←
        if empties ∨ found.isNone then changeDisk (Disk.write path []) else pure (.ok ())
      match result with
      | .error error => return .error error
      | .ok () => return .ok (← openStream (.file place 0 atEnd readable true))

/-- Opens a file for writing under a descriptor. -/
def openOutput (descriptor : Nat) (path : String) (empties atEnd readable : Bool) :
    Effect Bool := do
  match ← openForWriting path empties atEnd readable with
  | .error error => refuseOutput path error
  | .ok number =>
    attach descriptor number
    return true

/-- Opens a file for writing unless it is not to be overwritten. -/
def openFresh (descriptor : Nat) (path : String) : Effect Bool := do
  let disk ← diskHere
  let entry := (disk.find path).toOption
  if isKept (← own).options entry then
    complainAs ("cannot create " ++ path ++ ": " ++ DiskError.alreadyExists.reason)
      (path ++ ": cannot overwrite existing file")
    return false
  openOutput descriptor path true false false

/-- Does a redirection to another descriptor, or to none. -/
def redirectTo (descriptor : Nat) (target : String) : Effect Bool := do
  if target = "-" then
    detach descriptor
    return true
  else if target ≠ "" ∧ target.toList.all isDigit then
    duplicate descriptor (decimal target.toList)
  else if ← isExtended then
    if target.endsWith "-" ∧ target.toList.dropLast.all isDigit then
      let other := decimal target.toList.dropLast
      let done ← duplicate descriptor other
      detach other
      return done
    else if descriptor = 1 then
      if ← openFresh 1 target then duplicate 2 1 else return false
    else
      complain (target ++ ": ambiguous redirect")
      return false
  else fail "Syntax error: Bad fd number"

/-- Does one redirection, and tells whether it could be done. -/
def redirect (below : Interpreter) (redirect : Redirect) : Effect Bool := do
  let target ← expandText below redirect.target
  let descriptor := redirect.descriptor
  match redirect.kind with
  | .here =>
    attach descriptor (← openStream (.source (Utf8.ofString target) false))
    return true
  | .line =>
    attach descriptor (← openStream (.source (Utf8.ofString (target ++ "\n")) false))
    return true
  | .duplicate => redirectTo descriptor target
  | kind =>
    match deviceDescriptor? target with
    | some other =>
      let done ← duplicate descriptor other
      match kind with
      | .both _ => if done then duplicate 2 1 else return false
      | _ => return done
    | none =>
      match kind with
      | .output => openFresh descriptor target
      | .force => openOutput descriptor target true false false
      | .append => openOutput descriptor target false true false
      | .update => openOutput descriptor target false false true
      | .both atEnd =>
        let done ← if atEnd then openOutput 1 target false true false else openFresh 1 target
        if done then duplicate 2 1 else return false
      | _ => openInput descriptor target

/-- Does redirections in order up to the first that cannot be done. -/
def redirectAll (below : Interpreter) : List Redirect → Effect Bool
  | [] => return true
  | first :: rest => do
    if ← redirect below first then redirectAll below rest else return false

/-- Runs something with redirections, which are undone afterwards. -/
def withRedirections (below : Interpreter) (redirects : List Redirect) (refused : Effect Nat)
    (body : Effect Nat) : Effect Nat := do
  if redirects.isEmpty then body
  else
    let before := (← own).descriptors
    let restore : Effect Unit := changeOwn fun own => { own with descriptors := before }
    try
      let status ← if ← redirectAll below redirects then body else refused
      restore
      return status
    catch flow =>
      restore
      throw flow

end HistoryExpansion.Shell
