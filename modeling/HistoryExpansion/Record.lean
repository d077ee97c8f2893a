/-!
# Records

The commands of one session, oldest first.
-/

namespace HistoryExpansion

/-- The last `limit` elements of a list, or all of them if there are no more. -/
def newest {α : Type} (limit : Nat) (items : List α) : List α :=
  items.drop (items.length - limit)

/-- One session's commands. -/
structure Record where
  /-- The session that the commands belong to. -/
  session : String
  /-- The commands in the order they were given, oldest first. -/
  commands : List String
  deriving DecidableEq, Repr

namespace Record

/-- The number of commands. -/
def length (record : Record) : Nat :=
  record.commands.length

/-- Whether there are no commands. -/
def isEmpty (record : Record) : Bool :=
  record.commands.isEmpty

/-- The newest command. -/
def last? (record : Record) : Option String :=
  record.commands.getLast?

/-- The record with a command added, cut to the newest `window` commands. -/
def push (window : Nat) (command : String) (record : Record) : Record :=
  { record with commands := newest window (record.commands ++ [command]) }

/-- The record cut to its newest `window` commands. -/
def trim (window : Nat) (record : Record) : Record :=
  { record with commands := newest window record.commands }

@[simp] theorem session_push (window : Nat) (command : String) (record : Record) :
    (record.push window command).session = record.session := rfl

@[simp] theorem session_trim (window : Nat) (record : Record) :
    (record.trim window).session = record.session := rfl

end Record

/-- A list's newest elements are as many as the limit allows. -/
theorem length_newest {α : Type} (limit : Nat) (items : List α) :
    (newest limit items).length = min limit items.length := by
  simp only [newest, List.length_drop]
  omega

/-- Cutting to a window, adding one element and cutting again forgets nothing that the window of the
whole list would keep. -/
theorem newest_newest_append {α : Type} (limit : Nat) (items : List α) (item : α) :
    newest limit (newest limit items ++ [item]) = newest limit (items ++ [item]) := by
  simp only [newest, List.length_append, List.length_drop, List.length_cons, List.length_nil]
  rcases Nat.lt_or_ge limit items.length with h | h
  · cases limit with
    | zero => simp
    | succ n =>
      rw [← List.drop_append_of_le_length (by omega), List.drop_drop]
      congr 1
      omega
  · simp [Nat.sub_eq_zero_of_le h]

end HistoryExpansion
