import HistoryExpansion.Shell.Program.Awk.Value
import Std.Data.HashMap

/-!
# Tables

A table holds values by keys. Its keys come in the order of buckets that they are spread over, and
in a bucket the one that was used last comes first. A key that was only used as a number gets its
place among the texts when the texts are first needed.
-/

namespace HistoryExpansion.Shell.Awk

/-- A key of a table. -/
inductive Key where
  /-- A whole number. -/
  | number (value : Int)
  /-- A text. -/
  | text (value : List Char)

/-- The text of a key. -/
def Key.name : Key → String
  | number value => toString value
  | text value => String.ofList value

/-- A place of a table. -/
structure Slot where
  /-- Its value. -/
  value : Value := .unset
  /-- When it was last used by its text, if it ever was. -/
  textUse : Option Nat := none
  /-- When it was last used by its number, if it ever was. -/
  numberUse : Option Nat := none

/-- A table. -/
structure Table where
  /-- Its places, by the texts of their keys. -/
  slots : Std.HashMap String Slot := {}
  /-- The number of buckets. -/
  buckets : Nat := 64
  /-- The number of uses so far. -/
  uses : Nat := 0
  /-- Whether texts are known for all keys. -/
  byText : Bool := false
  /-- Whether it is a list, which has no buckets yet. -/
  listed : Bool := false

namespace Table

/-- The most places for each bucket. -/
def mostPerBucket : Nat := 12

/-- The code of a key, from which its bucket follows: the bits of each octet are joined with those
of the number so far, which is then multiplied with a prime. -/
def codeOf (key : String) : Nat :=
  ((Utf8.ofString key).foldl
    (fun (code : UInt32) octet => (code ^^^ octet.toUInt32) * 16777619) 2166136261).toNat

/-- The number of buckets for so many places, which doubles as often as it has to. -/
def bucketsFor (places : Nat) : (fuel : Nat) → (buckets : Nat) → Nat
  | 0, buckets => buckets
  | fuel + 1, buckets =>
    if places > buckets * mostPerBucket then bucketsFor places fuel (2 * buckets) else buckets

/-- The table with as many buckets as it needs. -/
def grown (table : Table) : Table :=
  { table with buckets := bucketsFor table.slots.size 40 table.buckets }

/-- The table with a place put in. -/
def put (table : Table) (key : String) (slot : Slot) : Table :=
  { table with slots := table.slots.insert key slot, uses := table.uses + 1 }

/-- The whole number that the text of a key writes. -/
def indexOf (key : String) : Int :=
  key.toInt?.getD 0

/-- The table with buckets if it was a list. -/
def unlisted (table : Table) : Table :=
  if table.listed then
    let table := { table.grown with listed := false }
    (List.range table.slots.size).foldl
      (fun table index =>
        let key := toString (index + 1)
        match table.slots[key]? with
        | some slot => table.put key { slot with numberUse := some table.uses }
        | none => table)
      table
  else table

/-- The table with texts for all keys. -/
def named (table : Table) : Table :=
  let table := table.unlisted
  if table.byText then table
  else
    let waiting := table.slots.toList.filterMap fun (key, slot) =>
      match slot.textUse, slot.numberUse with
      | none, some use => some (((indexOf key) % (table.buckets : Int)).toNat, use, key)
      | _, _ => none
    let ordered := waiting.mergeSort fun a b =>
      a.1 < b.1 || (a.1 == b.1 && a.2.1 ≥ b.2.1)
    let table := ordered.foldl
      (fun (table : Table) (_, _, key) =>
        match table.slots[key]? with
        | some slot => table.put key { slot with textUse := some table.uses }
        | none => table)
      table
    { table with byText := true }

/-- The table after its place for a text was used, which is there from then on. -/
def useText (table : Table) (key : String) : Table :=
  let table := table.named
  let slot := (table.slots[key]?).getD {}
  (table.put key { slot with textUse := some table.uses }).grown

/-- The table after its place for a number was used, which is there from then on. -/
def useNumber (table : Table) (index : Int) : Table :=
  let key := toString index
  if table.listed && table.slots.contains key then table
  else
    let table := table.unlisted
    match table.slots[key]? with
    | some slot =>
      if slot.numberUse.isNone ∧ table.byText then
        let table := table.useText key
        match table.slots[key]? with
        | some slot => table.put key { slot with numberUse := some table.uses }
        | none => table
      else table.put key { slot with numberUse := some table.uses }
    | none =>
      let table := if table.byText then table.useText key else table
      let slot := (table.slots[key]?).getD {}
      (table.put key { slot with numberUse := some table.uses }).grown

/-- The table after a place was used. -/
def use (table : Table) : Key → Table
  | .number value => table.useNumber value
  | .text value => table.useText (String.ofList value)

/-- Whether there is a place for a key. -/
def holds (table : Table) (key : Key) : Bool :=
  table.slots.contains key.name

/-- The value for a key, and the table, in which there is a place for it now. -/
def get (table : Table) (key : Key) : Value × Table :=
  let table := table.use key
  (((table.slots[key.name]?).map Slot.value).getD .unset, table)

/-- The table after it was asked whether there is a place for a key. -/
def asked (table : Table) (key : Key) : Table :=
  if table.slots.isEmpty then table
  else if table.holds key then table.use key
  else
    match key with
    | .text _ => table.named
    | .number _ => table.unlisted

/-- The table with a value for a key. -/
def set (table : Table) (key : Key) (value : Value) : Table :=
  let table := table.use key
  match table.slots[key.name]? with
  | some slot => { table with slots := table.slots.insert key.name { slot with value := value } }
  | none => table

/-- The table without a key. -/
def erase (table : Table) (key : Key) : Table :=
  if table.slots.isEmpty then table
  else
    let table := table.asked key
    let slots := table.slots.erase key.name
    if slots.isEmpty then {} else { table with slots := slots }

/-- The table of a list, whose keys are the numbers from one on. -/
def ofList (values : List Value) : Table :=
  let slots := values.zipIdx.foldl
    (fun (slots : Std.HashMap String Slot) (value, index) =>
      slots.insert (toString (index + 1)) { value := value })
    {}
  { slots := slots, listed := !values.isEmpty }

/-- The keys in order. -/
def keys (table : Table) : List String × Table :=
  let table := table.named
  let placed := table.slots.toList.map fun (key, slot) =>
    (codeOf key % table.buckets, slot.textUse.getD 0, key)
  let ordered := placed.mergeSort fun a b => a.1 < b.1 || (a.1 == b.1 && a.2.1 ≥ b.2.1)
  (ordered.map fun entry => entry.2.2, table)

/-- The number of places. -/
def size (table : Table) : Nat :=
  table.slots.size

end Table

end HistoryExpansion.Shell.Awk
