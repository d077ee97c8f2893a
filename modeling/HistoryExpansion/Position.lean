/-!
# Positions

A signed number names a command of a record in one of two ways: a positive number counts from the
oldest command, which is number one, and a negative number counts back from the newest, which is
number minus one. Numbers and lengths are 64-bit words.
-/

namespace HistoryExpansion

/-- The position that a signed number names among `length` commands, counted from zero. Zero names
nothing, and no number names a position among more commands than signed words can count. -/
def position? (number : Int64) (length : UInt64) : Option UInt64 :=
  if length > Int64.maxValue.toUInt64 then none
  else if number = 0 then none
  else
    let position := if number > 0 then number - 1 else length.toInt64 + number
    if 0 ≤ position ∧ position < length.toInt64 then some position.toUInt64 else none

end HistoryExpansion
