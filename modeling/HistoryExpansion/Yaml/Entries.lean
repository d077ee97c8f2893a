import HistoryExpansion.Text.Base64
import HistoryExpansion.Text.Blank
import HistoryExpansion.Yaml.Node

/-!
# Reading YAML nodes

What nodes are read as: a scalar as a text (`Node.text?`), and a mapping as entries with distinct
keys (`Node.entries?`), to which the key `<<` adds those of other mappings. `Node.isInOrder` is
asked of the nodes that nobody reads.
-/

namespace HistoryExpansion.Yaml.Node

/-! ## Texts -/

/-- Whether a scalar stands for null: unquoted, and empty, a tilde or the word. -/
def isNull (style : Style) (text : String) : Bool :=
  style == .plain && (text == "" || text == "~" || text.map Char.toLower == "null")

/-- Whether a tag leaves a scalar what it is without one. -/
def isFree (tag : Option Tag) : Bool :=
  tag == none || tag == some .other

/-- The text that a scalar writes. Null is no text, unless a tag makes it one. -/
def scalarText? (tag : Option Tag) (style : Style) (text : String) : Option String :=
  if tag = some .str then some text
  else if isNull style text then none
  else if tag = some .binary then
    match Base64.decode (text.toList.filter (!HistoryExpansion.Text.isBlank ·)) with
    | none => none
    | some octets => (Utf8.decode octets).toOption.map String.ofList
  else if isFree tag then some text
  else none

/-- The text that a node writes. -/
def text? : Node → Option String
  | .scalar tag style text => scalarText? tag style text
  | _ => none

/-! ## Keys -/

mutual

/-- Whether two nodes are the same key: they have the same text and tag, however they are written,
or the same items or entries. -/
def sameKey : Node → Node → Bool
  | .scalar tag _ text, .scalar tag' _ text' => tag == tag' && text == text'
  | .sequence items, .sequence items' => sameItems items items'
  | .mapping entries, .mapping entries' => sameEntries entries entries'
  | _, _ => false

/-- Whether some nodes are the same keys in the same order. -/
def sameItems : List Node → List Node → Bool
  | [], [] => true
  | item :: items, item' :: items' => sameKey item item' && sameItems items items'
  | _, _ => false

/-- Whether some keys and values are the same in the same order. -/
def sameEntries : List (Node × Node) → List (Node × Node) → Bool
  | [], [] => true
  | (key, value) :: entries, (key', value') :: entries' =>
    sameKey key key' && sameKey value value' && sameEntries entries entries'
  | _, _ => false

end

/-- Whether a key is among those of some entries. -/
def hasKey (key : Node) (entries : List (Node × Node)) : Bool :=
  entries.any fun entry => sameKey key entry.1

/-- Whether no two entries have the same key. -/
def distinctKeys : List (Node × Node) → Bool
  | [] => true
  | (key, _) :: entries => !(hasKey key entries) && distinctKeys entries

/-! ## Entries -/

/-- Whether a key asks for the entries of other mappings to be added. -/
def isMerge : Node → Bool
  | .scalar none .plain "<<" => true
  | _ => false

mutual

/-- The entries that a node gives to be added: those of a mapping, or of the mappings in a sequence,
the last one first. Null gives none. -/
def added? : Node → Option (List (Node × Node))
  | .scalar _ style text => if isNull style text then some [] else none
  | .sequence items => addedOfItems? items
  | .mapping entries => (split? entries).map fun (own, added) => own ++ added

/-- The entries that the items of a sequence give to be added. -/
def addedOfItems? : List Node → Option (List (Node × Node))
  | [] => some []
  | item :: items =>
    match added? item, addedOfItems? items with
    | some first, some later => some (later ++ first)
    | _, _ => none

/-- The entries that a mapping has by itself, and those that are added to it. -/
def split? : List (Node × Node) → Option (List (Node × Node) × List (Node × Node))
  | [] => some ([], [])
  | (key, value) :: entries =>
    match split? entries with
    | none => none
    | some (own, added) =>
      if isMerge key then (added? value).map fun first => (own, added ++ first)
      else some ((key, value) :: own, added)

end

/-- Adds the entries whose keys are not there yet. -/
def addEntries (own added : List (Node × Node)) : List (Node × Node) :=
  added.foldl (fun entries entry => if hasKey entry.1 entries then entries else entries ++ [entry])
    own

/-- All entries of a mapping. Its own must have distinct keys; of those that are added only the
first one with each key counts. -/
def entries? (entries : List (Node × Node)) : Option (List (Node × Node)) :=
  match split? entries with
  | none => none
  | some (own, added) => if distinctKeys own then some (addEntries own added) else none

/-! ## Nodes that are passed over -/

/-- Whether a scalar that nobody reads is in order. One with quotes or with a tag of a kind of its
own must be a text. -/
def scalarInOrder (tag : Option Tag) (style : Style) (text : String) : Bool :=
  tag == some .null || (style == .plain && isFree tag) || (scalarText? tag style text).isSome

/-- Whether a node that nobody reads is in order; each entry takes one of the fuel on the way down.
-/
def inOrderWithin : (fuel : Nat) → Node → Bool
  | 0, _ => false
  | fuel + 1, node =>
    match node with
    | .scalar tag style text => scalarInOrder tag style text
    | .sequence items => items.all (inOrderWithin fuel)
    | .mapping entries =>
      match entries? entries with
      | none => false
      | some entries => entries.all fun (key, value) =>
          inOrderWithin fuel key && inOrderWithin fuel value

/-- Whether a node that nobody reads is in order: whether its scalars are, and no mapping within it
has a key twice. -/
def isInOrder (node : Node) : Bool :=
  inOrderWithin (node.size + 1) node

end HistoryExpansion.Yaml.Node
