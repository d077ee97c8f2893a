import HistoryExpansion.Json.Reader
import HistoryExpansion.Record

/-!
# The history format

A history file is a JSON list of records. A record is written as an object with the keys `session`
and `commands`; when read it may also be the list of the two values, and an object may have further
keys, whose values are passed over.
-/

namespace HistoryExpansion.HistoryFormat

open Json

/-! ## Writing -/

/-- A line break and an indentation. -/
def newline (indent : Nat) : List Char :=
  '\n' :: List.replicate indent ' '

/-- A list of written items, each on a line of its own, indented two deeper than the list. -/
def layList (indent : Nat) : List (List Char) → List Char
  | [] => ['[', ']']
  | items =>
    '[' :: (newline (indent + 2) ++ (',' :: newline (indent + 2)).intercalate items ++
      newline indent ++ [']'])

/-- The key of the session, with its colon. -/
def sessionKey : List Char := quote "session".toList ++ [':']

/-- The key of the commands, with its colon. -/
def commandsKey : List Char := quote "commands".toList ++ [':']

/-- A record as an object over several lines. -/
def layRecord (record : Record) : List Char :=
  ['\x7b'] ++ newline 4 ++ sessionKey ++ [' '] ++ quote record.session.toList ++ [','] ++
    newline 4 ++ commandsKey ++ [' '] ++
    layList 4 (record.commands.map fun command => quote command.toList) ++ newline 2 ++ ['\x7d']

/-- The text of a history file. -/
def render (records : List Record) : List Char :=
  layList 0 (records.map layRecord)

/-- A record on one line without spaces. -/
def compact (record : Record) : List Char :=
  ['\x7b'] ++ sessionKey ++ quote record.session.toList ++ [','] ++ commandsKey ++ ['['] ++
    [','].intercalate (record.commands.map fun command => quote command.toList) ++ [']', '\x7d']

/-! ## Reading -/

/-- The parts of a record that have been read so far. -/
structure Parts where
  /-- The value of the key `session`. -/
  session : Option String := none
  /-- The value of the key `commands`. -/
  commands : Option (List String) := none
  deriving DecidableEq, Repr

/-- The record that the parts make up, if none is missing. -/
def Parts.record (parts : Parts) : Except JsonFault Record :=
  match parts.session, parts.commands with
  | some session, some commands => .ok ⟨session, commands⟩
  | _, _ => .error .misshapen

/-- Reads the colon and the value of a key into the parts. No key of a record may come twice. -/
def readMember (key : String) (parts : Parts) : Reader Parts := fun text =>
  if key = "session" ∧ parts.session.isSome then .error .misshapen
  else if key = "commands" ∧ parts.commands.isSome then .error .misshapen
  else
    match skipSpace text with
    | [] => .error .ended
    | ':' :: rest =>
      if key = "session" then
        (readString rest).map fun (session, rest) => ({ parts with session := some session }, rest)
      else if key = "commands" then
        (readList readString rest).map fun (commands, rest) =>
          ({ parts with commands := some commands }, rest)
      else (skipValue rest).map fun rest => (parts, rest)
    | _ => .error .malformed

/-- Reads the members of a record from a key on, up to behind the closing brace. -/
def readMembersWithin : (fuel : Nat) → Parts → Reader Record
  | 0, _, _ => .error .ended
  | fuel + 1, parts, text =>
    match text with
    | '"' :: rest =>
      match readQuoted rest with
      | .error fault => .error fault
      | .ok (key, rest) =>
        match readMember (String.ofList key) parts rest with
        | .error fault => .error fault
        | .ok (parts, rest) =>
          match skipSpace rest with
          | [] => .error .ended
          | '\x7d' :: rest => parts.record.map fun record => (record, rest)
          | ',' :: rest =>
            match skipSpace rest with
            | [] => .error .ended
            | rest => readMembersWithin fuel parts rest
          | _ => .error .malformed
    | _ => .error .malformed

/-- Reads a record written as an object, from behind its opening brace. -/
def readObject : Reader Record := fun text =>
  match skipSpace text with
  | [] => .error .ended
  | '\x7d' :: _ => .error .misshapen
  | rest => readMembersWithin (rest.length + 1) {} rest

/-- Reads a record written as a list of two values, from behind its opening bracket. -/
def readPair : Reader Record := fun text =>
  match skipSpace text with
  | [] => .error .ended
  | ']' :: _ => .error .misshapen
  | rest =>
    match readString rest with
    | .error fault => .error fault
    | .ok (session, rest) =>
      match skipSpace rest with
      | [] => .error .ended
      | ']' :: _ => .error .misshapen
      | ',' :: rest =>
        match skipSpace rest with
        | [] => .error .ended
        | ']' :: _ => .error .malformed
        | rest =>
          match readList readString rest with
          | .error fault => .error fault
          | .ok (commands, rest) =>
            match skipSpace rest with
            | [] => .error .ended
            | ']' :: rest => .ok (⟨session, commands⟩, rest)
            | _ => .error .malformed
      | _ => .error .malformed

/-- Reads a record in either form. -/
def readRecord : Reader Record := fun text =>
  match skipSpace text with
  | '[' :: rest => readPair rest
  | '\x7b' :: rest => readObject rest
  | rest => .error (mistyped rest)

/-- The records that a whole text holds. -/
def parse (text : List Char) : Except JsonFault (List Record) :=
  match readList readRecord text with
  | .error fault => .error fault
  | .ok (records, rest) => if (skipSpace rest).isEmpty then .ok records else .error .malformed

end HistoryExpansion.HistoryFormat
