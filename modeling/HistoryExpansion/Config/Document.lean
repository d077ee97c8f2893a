import HistoryExpansion.Config.Basic
import HistoryExpansion.Text.Base64
import HistoryExpansion.Yaml.Entries

/-!
# Configuration documents

A configuration is written as a YAML mapping from the names of values to the values. A name may be
left out and then has its usual value; a name that means nothing is passed over, but no name may
come twice. Where a mapping is asked for, null stands for the mapping without names.
-/

namespace HistoryExpansion.Config

open Yaml

/-! ## Scalars -/

/-- The text that a node writes, or nothing for null. -/
def optionalText? : Node → Option (Option String)
  | .scalar tag style text =>
    if tag = some .null || Node.isNull style text ||
        (text == "" && style != .single && style != .double) then some none
    else (Node.text? (.scalar tag style text)).map some
  | _ => none

/-- The value of a digit in a base up to sixteen. -/
def digit? (base : Nat) (c : Char) : Option Nat :=
  match hexValue? c with
  | some value => if value < base then some value else none
  | none => none

/-- The number that digits write in a base. Underscores between them do not count. -/
def digits? (base : Nat) (text : List Char) : Option Nat :=
  let digits := text.filter (· ≠ '_')
  if digits.isEmpty then none
  else (digits.mapM (digit? base)).map fun values =>
    values.foldl (fun number value => number * base + value) 0

/-- The number that a text writes, in base ten or with a mark in front in base sixteen, eight or
two. -/
def natural? (text : List Char) : Option Nat :=
  let unsigned :=
    match text with
    | '+' :: rest => rest
    | rest => rest
  match unsigned with
  | '0' :: c :: rest =>
    if c = 'x' ∨ c = 'X' then digits? 16 rest
    else if c = 'o' ∨ c = 'O' then digits? 8 rest
    else if c = 'b' ∨ c = 'B' then digits? 2 rest
    else digits? 10 unsigned
  | rest => digits? 10 rest

/-- The number that a node writes, if a 64-bit word holds it. -/
def word? : Node → Option UInt64
  | .scalar _ _ text =>
    match natural? (Text.trimmed text.toList) with
    | some number => if number < UInt64.size then some number.toUInt64 else none
    | none => none
  | _ => none

/-! ## Mappings -/

/-- A value with its name. -/
abbrev Field := String × Node

/-- The names of the keys of some entries, with their values. Each key must be a text. -/
def named? (entries : List (Node × Node)) : Option (List Field) :=
  entries.mapM fun (key, value) => key.text?.map (·, value)

/-- The fields of a node that stands where a mapping is asked for. The known names must each come
once, and all that is passed over must be in order. -/
def fields? (known : List String) : Node → Option (List Field)
  | .scalar tag style text =>
    if tag = some .null || Node.isNull style text then some [] else none
  | .sequence _ => none
  | .mapping entries =>
    match (Node.entries? entries).bind named? with
    | none => none
    | some fields =>
      let (used, passed) := fields.partition fun field => known.contains field.1
      let names := used.map (·.1)
      if names.eraseDups.length = names.length ∧ passed.all (fun field => field.2.isInOrder) then
        some used
      else none

/-- Reads the field with a name; a field that is left out has its usual value. -/
def field {α : Type} (fields : List Field) (name : String) (usual : α) (read : Node → Option α) :
    Option α :=
  match fields.find? (·.1 == name) with
  | none => some usual
  | some found => read found.2

/-- The launcher that a node writes. -/
def launcher? (node : Node) : Option Launcher :=
  match fields? ["shell", "shell_arg", "timeout_seconds"] node with
  | none => none
  | some fields =>
    let usual : Launcher := {}
    match field fields "shell" usual.shell Node.text?,
      field fields "shell_arg" usual.argument Node.text?,
      field fields "timeout_seconds" usual.limit word? with
    | some shell, some argument, some limit => some ⟨shell, argument, limit⟩
    | _, _, _ => none

/-- The path of the history file that a node writes. -/
def historyPath? (node : Node) : Option (Option String) :=
  match fields? ["path"] node with
  | none => none
  | some fields => field fields "path" none optionalText?

/-- The configuration that a node writes. -/
def ofNode? (node : Node) : Option Config :=
  match fields? ["history", "bang", "executor", "storage"] node with
  | none => none
  | some fields =>
    let usual : Config := {}
    match field fields "history" usual.window word?, field fields "bang" usual.trigger Node.text?,
      field fields "executor" usual.launcher launcher?,
      field fields "storage" usual.historyPath historyPath? with
    | some window, some trigger, some launcher, some historyPath =>
      some ⟨window, trigger, launcher, historyPath⟩
    | _, _, _, _ => none

/-- The configuration that a text writes. -/
def parse (text : List Char) : Option Config :=
  (Node.parse text).bind ofNode?

end HistoryExpansion.Config
