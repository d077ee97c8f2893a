import HistoryExpansion.Text.Blank
import HistoryExpansion.Text.Utf8

/-!
# Paths

A path is a text whose parts stand between slashes. Empty parts and parts that are a single dot,
unless the path starts with it, do not count; two dots mean the directory above.
-/

namespace HistoryExpansion.Path

/-- The texts between the slashes of a path, empty ones too. -/
def segments (path : String) : List String :=
  (Text.splitAtEach '/' path.toList).map String.ofList

/-- Whether a path starts at the root. -/
def isAbsolute (path : String) : Bool :=
  path.toList.head? == some '/'

/-- Whether a path ends in a slash, so that it can only lead to a directory. -/
def endsInSlash (path : String) : Bool :=
  path.toList.getLast? == some '/'

/-- The parts of a path that count, without the slash that an absolute one starts with. -/
def parts (path : String) : List String :=
  match segments path with
  | [] => []
  | first :: rest =>
    (if first = "" then [] else [first]) ++ rest.filter fun part => part ≠ "" ∧ part ≠ "."

/-- A path with given parts. -/
def ofParts (absolute : Bool) (parts : List String) : String :=
  (if absolute then "/" else "") ++ String.intercalate "/" parts

/-- The path of the directory that a path stands in: the path without its last part. -/
def parent? (path : String) : Option String :=
  match parts path with
  | [] => none
  | parts => some (ofParts (isAbsolute path) parts.dropLast)

/-- The last part of a path, if it is a name. -/
def fileName? (path : String) : Option String :=
  match (parts path).getLast? with
  | none => none
  | some name => if name = "." ∨ name = ".." then none else some name

/-- A name without what follows its last dot; a dot at the start of a name does not count. -/
def stemOf (name : List Char) : List Char :=
  match (name.reverse.dropWhile (· ≠ '.')).reverse with
  | [] => name
  | withDot => if withDot.length = 1 then name else withDot.dropLast

/-- What precedes the last part of a path in its text: everything up to the start of the name. -/
def beforeName (path name : List Char) : List Char :=
  let reversed := path.reverse
  let trailing := reversed.length - (dropTrailer reversed).length
  path.take (path.length - trailing - name.length)
where
  /-- Drops the slashes and the lone dots that a reversed path starts with. -/
  dropTrailer : List Char → List Char
    | '/' :: rest => dropTrailer rest
    | '.' :: '/' :: rest => dropTrailer ('/' :: rest)
    | rest => rest

/-- The path with the extension of its last name replaced, or added if the name has none. A path
whose last part is no name stays as it is. The old extension is cut off first: where that leaves
two dots, as in `..b`, the path now ends in the directory above, and gets no extension. -/
def withExtension (path extension : String) : String :=
  match fileName? path with
  | none => path
  | some name =>
    let front := beforeName path.toList name.toList
    let stem := stemOf name.toList
    if stem = ['.'] ∧ path.length = front.length + name.length then
      String.ofList (front ++ ['.', '.'])
    else String.ofList (front ++ stem) ++ "." ++ extension

end HistoryExpansion.Path
