import HistoryExpansion.Yaml.Token

/-!
# Tags of YAML nodes

A tag is written as a handle and a suffix. Directives say what handles stand for; `Handles.tag?`
puts that in their place, and `Tag.ofText` tells which kind of value the tag then asks for.
-/

namespace HistoryExpansion.Yaml

/-- What a tag asks for. -/
inductive Tag where
  /-- Null. -/
  | null
  /-- A truth value. -/
  | bool
  /-- A whole number. -/
  | int
  /-- A number with a fraction. -/
  | float
  /-- A text. -/
  | str
  /-- A sequence. -/
  | seq
  /-- A mapping. -/
  | map
  /-- Octets, written in base 64. -/
  | binary
  /-- A date with a time. -/
  | timestamp
  /-- A time of day. -/
  | time
  /-- An angle in degrees. -/
  | degrees
  /-- An angle in radians. -/
  | radians
  /-- Anything that is not known. -/
  | other
  deriving DecidableEq, Repr

namespace Tag

/-- The names of the tags that are known. -/
def names : List (String × Tag) :=
  [("null", null), ("bool", bool), ("int", int), ("float", float), ("str", str), ("seq", seq),
    ("map", map), ("binary", binary), ("timestamp", timestamp), ("time", time),
    ("degrees", degrees), ("radians", radians)]

/-- What the handle of two exclamation marks stands for unless a directive says otherwise. -/
def standard : String := "tag:yaml.org,2002:"

/-- What may stand before the name of a known tag. -/
def openings : List String := ["!", "!!", standard ++ "!"]

/-- The tag that a handle and a suffix write, once what the handle stands for is in its place. The
two are set apart by an exclamation mark, which also is a handle. -/
def ofText (handle suffix : String) : Tag :=
  let text := if handle = "!" then "!" ++ suffix else handle ++ "!" ++ suffix
  match names.find? fun (name, _) => openings.any fun opening => opening ++ name == text with
  | some (_, tag) => tag
  | none => other

end Tag

/-- What handles stand for, as the directives of a document say. -/
abbrev Handles := List (String × String)

/-- What handles stand for after one more directive: only the last directive before a document
counts. -/
def Handles.ofDirective : Directive → Handles
  | .handle handle expansion => [(handle, expansion)]
  | _ => []

/-- The tag that a handle and a suffix write. A handle with a name between its exclamation marks
must be known. -/
def Handles.tag? (handles : Handles) (handle suffix : String) : Option Tag :=
  match handles.lookup handle with
  | some expansion => some (Tag.ofText expansion suffix)
  | none =>
    if handle = "!!" then some (Tag.ofText Tag.standard suffix)
    else if 2 ≤ handle.length then none
    else some (Tag.ofText handle suffix)

end HistoryExpansion.Yaml
