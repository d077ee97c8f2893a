import HistoryExpansion.Shell.Word
import HistoryExpansion.Text.Blank

/-!
# Permissions in words

Permissions are twelve bits: three for the owner, the group and others each, and three further ones
above them. A change of permissions is written as a number in base eight, or as clauses that say
whose bits are set, added or taken away.
-/

namespace HistoryExpansion.Shell

/-- A clause of a change of permissions. -/
structure PermissionClause where
  /-- The bits of those that are named; nobody is named in particular if there is none. -/
  who : Option Nat
  /-- What is done: a plus, a minus or an equals sign. -/
  operator : Char
  /-- The letters of what is permitted. -/
  letters : List Char

/-- A change of permissions. -/
inductive PermissionChange where
  /-- The permissions themselves. -/
  | exactly (mode : Nat)
  /-- Clauses, which are followed one after the other. -/
  | inTurn (clauses : List PermissionClause)

namespace PermissionChange

/-- The bits that a letter names the owner of. -/
def whoBits? (c : Char) : Option Nat :=
  if c = 'u' then some 0o4700
  else if c = 'g' then some 0o2070
  else if c = 'o' then some 0o1007
  else if c = 'a' then some 0o7777
  else none

/-- Reads the operators of a clause with the letters behind them. -/
def readOperators (who : Option Nat) : (fuel : Nat) → List Char → Option (List PermissionClause)
  | 0, _ => none
  | _, [] => some []
  | fuel + 1, c :: rest =>
    if c = '+' ∨ c = '-' ∨ c = '=' then
      let letters := rest.takeWhile fun c => "rwxXstugo".toList.contains c
      (readOperators who fuel (rest.drop letters.length)).map (⟨who, c, letters⟩ :: ·)
    else none

/-- Reads a clause. -/
def readClause (text : List Char) : Option (List PermissionClause) :=
  let named := text.takeWhile fun c => (whoBits? c).isSome
  let who := if named.isEmpty then none
    else some ((named.filterMap whoBits?).foldl (· ||| ·) 0)
  match text.drop named.length with
  | [] => none
  | rest => readOperators who (rest.length + 1) rest

/-- The change that a text writes. -/
def read? (text : String) : Option PermissionChange :=
  let chars := text.toList
  if !chars.isEmpty ∧ chars.all fun c => '0' ≤ c ∧ c ≤ '7' then
    let mode := chars.foldl (fun mode c => mode * 8 + (c.toNat - 0x30)) 0
    if mode ≤ 0o7777 then some (.exactly mode) else none
  else
    (((Text.splitAtEach ',' chars).mapM readClause).map List.flatten).map .inTurn

/-- The three bits of a group of permissions, for everyone. -/
def spread (bits : Nat) : Nat :=
  bits * 0o111

/-- The bits that a letter permits, given the permissions so far. -/
def letterBits (isDirectory : Bool) (mode : Nat) (c : Char) : Nat :=
  if c = 'r' then 0o444
  else if c = 'w' then 0o222
  else if c = 'x' then 0o111
  else if c = 'X' then if isDirectory ∨ mode &&& 0o111 ≠ 0 then 0o111 else 0
  else if c = 's' then 0o6000
  else if c = 't' then 0o1000
  else if c = 'u' then spread (mode / 64 % 8)
  else if c = 'g' then spread (mode / 8 % 8)
  else if c = 'o' then spread (mode % 8)
  else 0

/-- Bits without others. -/
def without (bits others : Nat) : Nat :=
  bits - (bits &&& others)

/-- The permissions after a clause. If nobody is named, what is masked stays as it is. -/
def applyClause (isDirectory : Bool) (mask mode : Nat) (clause : PermissionClause) : Nat :=
  let concerned := clause.who.getD (without 0o7777 mask)
  let bits := (clause.letters.map (letterBits isDirectory mode)).foldl (· ||| ·) 0 &&& concerned
  if clause.operator = '+' then mode ||| bits
  else if clause.operator = '-' then without mode bits
  else
    let kept := if isDirectory then 0o6000 else 0
    let cleared := clause.who.getD 0o7777
    without mode (without cleared (without kept bits)) ||| bits

/-- The permissions after a change. -/
def apply (change : PermissionChange) (isDirectory : Bool) (mask mode : Nat) : Nat :=
  match change with
  | .exactly new => if isDirectory then new ||| (mode &&& 0o6000) else new
  | .inTurn clauses => clauses.foldl (applyClause isDirectory mask) mode

end PermissionChange

/-- A number in base eight with at least so many digits. -/
def inOctal (width mode : Nat) : String :=
  let digits := Nat.toDigits 8 mode
  String.ofList (List.replicate (width - digits.length) '0' ++ digits)

/-- The letters of three bits of permissions. -/
def permissionLetters (bits : Nat) : String :=
  (if bits.testBit 2 then "r" else "") ++ (if bits.testBit 1 then "w" else "") ++
    (if bits.testBit 0 then "x" else "")

/-- Permissions as clauses for the owner, the group and others. -/
def permissionClauses (mode : Nat) : String :=
  "u=" ++ permissionLetters (mode / 64 % 8) ++ ",g=" ++ permissionLetters (mode / 8 % 8) ++
    ",o=" ++ permissionLetters (mode % 8)

end HistoryExpansion.Shell
