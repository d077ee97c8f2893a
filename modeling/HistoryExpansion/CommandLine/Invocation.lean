import HistoryExpansion.CommandLine.Argument

/-!
# Invocations

A command line asks for one of three commands: to read commands line by line, which is also what is
done when nothing is asked for, to expand a text, or to list the history. Options may stand before
the command and behind it; what is given behind it counts more. An option that takes a value finds
it attached or in the next word.
-/

namespace HistoryExpansion.CommandLine

/-- What is done when the program is called. -/
inductive Command where
  /-- Commands are read line by line. -/
  | loop
  /-- A text is expanded, with the history in a given file if there is one. -/
  | expand (text : String) (historyPath : Option String)
  /-- The last commands of the history are listed. -/
  | list (limit : UInt64) (historyPath : Option String)
  deriving DecidableEq, Repr

/-- A call of the program. -/
structure Invocation where
  /-- The path of the configuration file, if one is named. -/
  configPath : Option String
  /-- The session that is worked on. -/
  session : String
  /-- What is to be done. -/
  command : Command
  deriving DecidableEq, Repr

/-- The session when none is named. -/
def usualSession : String := "local"

/-- The number of commands that are listed when no limit is set. -/
def usualLimit : UInt64 := 20

/-! ## Options -/

/-- The options that take a value. -/
inductive Setting where
  /-- The path of the configuration file. -/
  | config
  /-- The session. -/
  | session
  /-- The number of commands to list. -/
  | limit
  /-- The path of the history file. -/
  | historyFile
  deriving DecidableEq, Repr

/-- The name of an option. -/
def Setting.name : Setting → String
  | config => "config"
  | session => "session"
  | limit => "limit"
  | historyFile => "history-file"

/-- The letter of an option, if it has one. -/
def Setting.letter? : Setting → Option Char
  | config => some 'c'
  | session => some 's'
  | limit => some 'l'
  | historyFile => none

/-- The part of a command line that is being read. -/
inductive Place where
  /-- Before any command. -/
  | start
  /-- Behind the command to read commands line by line. -/
  | loop
  /-- Behind the command to expand a text. -/
  | expand
  /-- Behind the command to list the history. -/
  | list
  /-- Behind the request for help on a command. -/
  | help
  deriving DecidableEq, Repr

/-- The word that leads to a place. -/
def Place.name : Place → String
  | start => ""
  | loop => "repl"
  | expand => "expand"
  | list => "history"
  | help => "help"

/-- The place that a word leads to. -/
def Place.ofName? (name : String) : Option Place :=
  [loop, expand, list, help].find? (·.name == name)

/-- The options that are known at a place. -/
def Place.settings : Place → List Setting
  | start | loop | help => [.config, .session]
  | expand => [.config, .session, .historyFile]
  | list => [.config, .session, .limit, .historyFile]

/-! ## Values -/

/-- Why a command line is refused. -/
inductive UsageError where
  /-- No option of this spelling is known at its place. -/
  | unknownOption (spelling : String)
  /-- An option is given no value. -/
  | missingValue (setting : Setting)
  /-- An option is given twice at one place. -/
  | repeated (setting : Setting)
  /-- A value is not one that the option takes. -/
  | badValue (setting : Setting) (value : String)
  /-- An option that takes no value is given one. -/
  | needlessValue (name : String)
  /-- A word is one too many. -/
  | unexpected (word : String)
  /-- There is no text to expand. -/
  | missingText
  deriving DecidableEq, Repr

/-- The wording of a usage error. -/
def UsageError.message : UsageError → String
  | unknownOption spelling => "unexpected argument '" ++ spelling ++ "' found"
  | missingValue setting => "a value is required for '--" ++ setting.name ++ "'"
  | repeated setting => "the argument '--" ++ setting.name ++ "' cannot be used multiple times"
  | badValue setting value => "invalid value '" ++ value ++ "' for '--" ++ setting.name ++ "'"
  | needlessValue name => "unexpected value for '--" ++ name ++ "' found; no more were expected"
  | unexpected word => "unexpected argument '" ++ word ++ "' found"
  | missingText => "the following required arguments were not provided: <TEXT>"

/-- The values given at one place. -/
structure Given where
  /-- The path of the configuration file. -/
  configPath : Option String := none
  /-- The session. -/
  session : Option String := none
  /-- The number of commands to list. -/
  limit : Option UInt64 := none
  /-- The path of the history file. -/
  historyPath : Option String := none
  /-- The text to expand. -/
  text : Option String := none
  deriving DecidableEq, Repr

/-- The number that digits stand for. -/
def number (digits : List Char) : Nat :=
  digits.foldl (fun n digit => 10 * n + (digit.toNat - '0'.toNat)) 0

/-- The number that a text is: ASCII digits, perhaps behind a plus sign, for a number of 64 bits. -/
def readNumber? (text : String) : Option UInt64 :=
  let digits :=
    match text.toList with
    | '+' :: digits => digits
    | digits => digits
  if digits ≠ [] ∧ digits.all Char.isDigit ∧ number digits < UInt64.size then
    some (UInt64.ofNat (number digits))
  else none

/-- The path that a text is; an empty text is none. -/
def readPath? (text : String) : Option String :=
  if text = "" then none else some text

/-- Gives an option its value. -/
def Given.set (given : Given) (setting : Setting) (value : String) : Except UsageError Given :=
  let once {α : Type} (old new : Option α) (store : Option α → Given) : Except UsageError Given :=
    if old.isSome then .error (.repeated setting)
    else if new.isNone then .error (.badValue setting value)
    else .ok (store new)
  match setting with
  | .config => once given.configPath (readPath? value) ({ given with configPath := · })
  | .session => once given.session (some value) ({ given with session := · })
  | .limit => once given.limit (readNumber? value) ({ given with limit := · })
  | .historyFile => once given.historyPath (readPath? value) ({ given with historyPath := · })

/-! ## Reading -/

/-- What a command line comes to. -/
inductive Request where
  /-- A call of the program. -/
  | invoke (invocation : Invocation)
  /-- The version is asked for. -/
  | version
  /-- Help is asked for. -/
  | help
  deriving DecidableEq, Repr

/-- Why the reading of a command line ends before its end. -/
inductive Interruption where
  /-- The command line is refused. -/
  | refused (error : UsageError)
  /-- The version is asked for. -/
  | version
  /-- Help is asked for. -/
  | help
  deriving DecidableEq, Repr

/-- How far a command line has been read. -/
structure Reading where
  /-- The part that is being read. -/
  place : Place := .start
  /-- The values given before the command. -/
  above : Given := {}
  /-- The values given at the place. -/
  given : Given := {}
  /-- The option whose value must be the next word. -/
  pending : Option Setting := none
  /-- Whether every word from here on is plain. -/
  plain : Bool := false
  deriving DecidableEq, Repr

namespace Reading

/-- Gives an option its value. -/
def give (reading : Reading) (setting : Setting) (value : String) :
    Except Interruption Reading :=
  match reading.given.set setting value with
  | .error error => .error (.refused error)
  | .ok given => .ok { reading with given, pending := none }

/-- Takes an option: its value is attached or must be the next word. -/
def take (reading : Reading) (setting : Setting) (attached : Option String) :
    Except Interruption Reading :=
  match attached with
  | some value => reading.give setting value
  | none => .ok { reading with pending := some setting }

/-- Takes a plain word. -/
def takeWord (reading : Reading) (word : String) : Except Interruption Reading :=
  match reading.place with
  | .start =>
    match if reading.plain then none else Place.ofName? word with
    | some place => .ok { place, above := reading.given }
    | none => .error (.refused (.unexpected word))
  | .expand =>
    if reading.given.text.isSome then .error (.refused (.unexpected word))
    else .ok { reading with given := { reading.given with text := some word } }
  | .loop | .list | .help => .error (.refused (.unexpected word))

/-- Takes an option by its name. -/
def takeLong (reading : Reading) (name : String) (value : Option String) :
    Except Interruption Reading :=
  match reading.place.settings.find? (·.name == name) with
  | some setting => reading.take setting value
  | none =>
    if name = "help" ∨ (name = "version" ∧ reading.place = .start) then
      if value.isSome then .error (.refused (.needlessValue name))
      else .error (if name = "help" then .help else .version)
    else .error (.refused (.unknownOption ("--" ++ name)))

/-- Takes an option by its letter. -/
def takeShort (reading : Reading) (letter : Char) (rest : List Char) :
    Except Interruption Reading :=
  match reading.place.settings.find? (·.letter? == some letter) with
  | some setting => reading.take setting (Argument.attached? rest)
  | none =>
    if letter = 'h' then .error .help
    else if letter = 'V' ∧ reading.place = .start then .error .version
    else .error (.refused (.unknownOption ("-" ++ letter.toString)))

/-- Takes the name of the command that help is asked for; no command has commands of its own. -/
def takeTopic (reading : Reading) (word : String) : Except Interruption Reading :=
  if (Place.ofName? word).isSome ∧ reading.given.text = none then
    .ok { reading with given := { reading.given with text := some word } }
  else .error (.refused (.unexpected word))

/-- Takes the next word of a command line. -/
def next (reading : Reading) (text : String) : Except Interruption Reading :=
  if reading.place = .help then reading.takeTopic text
  else if reading.plain then reading.takeWord text
  else
    match Argument.read text, reading.pending with
    | .word word, some setting => reading.give setting word
    | _, some setting => .error (.refused (.missingValue setting))
    | .word word, none => reading.takeWord word
    | .endOfOptions, none => .ok { reading with plain := true }
    | .long name value, none => reading.takeLong name value
    | .short letter rest, none => reading.takeShort letter rest

/-- What is to be done at the place. -/
def command (reading : Reading) : Except Interruption Command :=
  match reading.place with
  | .start | .loop => .ok .loop
  | .expand =>
    match reading.given.text with
    | some text => .ok (.expand text reading.given.historyPath)
    | none => .error (.refused .missingText)
  | .list => .ok (.list (reading.given.limit.getD usualLimit) reading.given.historyPath)
  | .help => .error .help

/-- The call that a command line comes to once all of it is read. -/
def finish (reading : Reading) : Except Interruption Invocation :=
  match reading.pending, reading.command with
  | some setting, _ => .error (.refused (.missingValue setting))
  | none, .error interruption => .error interruption
  | none, .ok command =>
    .ok ⟨reading.given.configPath <|> reading.above.configPath,
      (reading.given.session <|> reading.above.session).getD usualSession, command⟩

/-- Takes words one after the other. -/
def all : Reading → List String → Except Interruption Invocation
  | reading, [] => reading.finish
  | reading, word :: words =>
    match reading.next word with
    | .error interruption => .error interruption
    | .ok reading => all reading words

end Reading

/-- What a command line asks for. -/
def Request.read (words : List String) : Except UsageError Request :=
  match Reading.all {} words with
  | .ok invocation => .ok (.invoke invocation)
  | .error .version => .ok .version
  | .error .help => .ok .help
  | .error (.refused error) => .error error

end HistoryExpansion.CommandLine
