import HistoryExpansion.Shell.Word
import HistoryExpansion.Text.Utf8

/-!
# Lists of values

A variable can hold items: by numbers, in the order of these, or by keys. Items with keys stand in
buckets by a number that is made from the key, and are gone through bucket by bucket; within one,
the newest comes first.
-/

namespace HistoryExpansion.Shell

/-- The items of a variable. -/
inductive Items where
  /-- Items by numbers, in rising order. -/
  | numbered (entries : List (Nat × String))
  /-- Items by keys, newest first. -/
  | keyed (entries : List (String × String))
  deriving DecidableEq, Repr

namespace Items

/-- The number of buckets for keys. -/
def bucketCount : Nat := 1024

/-- The code of a key: for each octet the number so far is multiplied with a prime and its bits
are joined with those of the octet. -/
def codeOf (key : String) : Nat :=
  ((Utf8.ofString key).foldl
    (fun (hash : UInt32) octet => (hash * 16777619) ^^^ octet.toUInt32) 2166136261).toNat

/-- The bucket of a key. -/
def bucketOf (key : String) : Nat :=
  codeOf key % bucketCount

/-- The indices at which there are items, in order, each with its item. -/
def entries : Items → List (String × String)
  | numbered entries => entries.map fun (index, text) => (toString index, text)
  | keyed entries => entries.mergeSort fun a b => bucketOf a.1 ≤ bucketOf b.1

/-- The values in order. -/
def values (items : Items) : List String :=
  items.entries.map Prod.snd

/-- The indices in order. -/
def indices (items : Items) : List String :=
  items.entries.map Prod.fst

/-- The number of items. -/
def size : Items → Nat
  | numbered entries => entries.length
  | keyed entries => entries.length

/-- Whether the items have keys. -/
def hasKeys : Items → Bool
  | numbered _ => false
  | keyed _ => true

/-- The item with a number put among others in rising order. -/
def insertNumbered (index : Nat) (text : String) : List (Nat × String) → List (Nat × String)
  | [] => [(index, text)]
  | (other, old) :: rest =>
    if index < other then (index, text) :: (other, old) :: rest
    else if index = other then (index, text) :: rest
    else (other, old) :: insertNumbered index text rest

/-- The items with one set. -/
def set (items : Items) (index text : String) : Items :=
  match items with
  | numbered entries => numbered (insertNumbered (decimal index.toList) text entries)
  | keyed entries =>
    if entries.any (·.1 == index) then
      keyed (entries.map fun old => if old.1 = index then (index, text) else old)
    else keyed ((index, text) :: entries)

/-- The item at an index. -/
def get? (items : Items) (index : String) : Option String :=
  match items with
  | numbered entries => entries.lookup (decimal index.toList)
  | keyed entries => entries.lookup index

/-- The items without one. -/
def remove (items : Items) (index : String) : Items :=
  match items with
  | numbered entries => numbered (entries.filter (·.1 ≠ decimal index.toList))
  | keyed entries => keyed (entries.filter (·.1 ≠ index))

/-- The number behind the last item. -/
def next : Items → Nat
  | numbered entries => (entries.getLast?.map (·.1 + 1)).getD 0
  | keyed _ => 0

/-- Texts by their numbers from one on. -/
def ofTexts (first : Nat) (texts : List String) : Items :=
  numbered (texts.zipIdx.map fun (text, i) => (first + i, text))

end Items

end HistoryExpansion.Shell
