import HistoryExpansion.Lookup
import HistoryExpansion.Number

/-!
# The two numberings of a record

`position?` works on 64-bit words. Seen as whole numbers it never overflows (`countsExactly`), and
it numbers the commands of a record in two ways: from the oldest on with 1, 2, …, and from the
newest back with -1, -2, … (`position?_eq_some_iff`). No other number names a position. What this
says of the commands of a record is `commandAt?_of_countsTo` and `commandAt?_eq_none`; in particular
a negative number names a command by how far back it stands (`commandAt?_neg`).
-/

namespace HistoryExpansion

/-- The position that a number other than zero counts to, within the record or beyond it. -/
def offset (number : Int) (length : Nat) : Int :=
  if 0 < number then number - 1 else length + number

theorem maxValue_lt_iff (length : UInt64) :
    length > Int64.maxValue.toUInt64 ↔ 2 ^ 63 ≤ length.toNat := by
  have hmax : Int64.maxValue.toUInt64.toNat = 2 ^ 63 - 1 := by decide
  rw [gt_iff_lt, UInt64.lt_iff_toNat_lt, hmax]
  omega

theorem toInt_toInt64 {length : UInt64} (h : length.toNat < 2 ^ 63) :
    length.toInt64.toInt = length.toNat := by
  rw [← Int64.toInt_ofNat_of_lt h, ← UInt64.toInt64_ofNat', UInt64.ofNat_toNat]

theorem toUInt64_eq_ofNat {number : Int64} (h : 0 ≤ number) :
    number.toUInt64 = UInt64.ofNat number.toInt.toNat := by
  rw [← @UInt64.ofNat_toNat number.toUInt64, Int64.toNat_toUInt64_of_le h]
  rfl

/-- Counting to a position stays within signed words. -/
theorem toInt_count {number : Int64} {length : UInt64} (h : length.toNat < 2 ^ 63) :
    (if number > 0 then number - 1 else length.toInt64 + number).toInt =
      offset number.toInt length.toNat := by
  have hlow := number.le_toInt
  have hhigh := number.toInt_lt
  have hpos : number > 0 ↔ 0 < number.toInt := Int64.lt_iff_toInt_lt
  unfold offset
  by_cases hnumber : 0 < number.toInt
  · rw [if_pos (hpos.2 hnumber), if_pos hnumber, Int64.toInt_sub, Int64.toInt_one]
    exact Int.bmod_eq_of_le (by omega) (by omega)
  · rw [if_neg fun hgt => hnumber (hpos.1 hgt), if_neg hnumber, Int64.toInt_add, toInt_toInt64 h]
    exact Int.bmod_eq_of_le (by omega) (by omega)

/-- The position that a number names, in whole numbers. -/
theorem position?_eq {number : Int64} {length : UInt64} (h : length.toNat < 2 ^ 63) :
    position? number length =
      if number.toInt ≠ 0 ∧ 0 ≤ offset number.toInt length.toNat ∧
          offset number.toInt length.toNat < length.toNat then
        some (UInt64.ofNat (offset number.toInt length.toNat).toNat)
      else none := by
  have hzero : number = 0 ↔ number.toInt = 0 := by rw [← Int64.toInt_inj, Int64.toInt_zero]
  rw [position?, if_neg fun hgt => absurd ((maxValue_lt_iff length).1 hgt) (by omega)]
  by_cases hnumber : number.toInt = 0
  · rw [if_pos (hzero.2 hnumber), if_neg fun hnamed => hnamed.1 hnumber]
  · rw [if_neg fun heq => hnumber (hzero.1 heq)]
    have hcount := @toInt_count number length h
    dsimp only
    generalize (if number > 0 then number - 1 else length.toInt64 + number) = position at hcount
    simp only [Int64.le_iff_toInt_le, Int64.lt_iff_toInt_lt, hcount, toInt_toInt64 h,
      Int64.toInt_zero, hnumber, ne_eq, not_false_eq_true, true_and]
    split
    · next hwithin =>
      have hnonneg : 0 ≤ position := by
        rw [Int64.le_iff_toInt_le, hcount]
        exact hwithin.1
      rw [toUInt64_eq_ofNat hnonneg, hcount]
    · rfl

/-- **Numbers name positions** counted from the oldest command or back from the newest, as long as
signed words can count the commands. -/
theorem position?_eq_some_iff {number : Int64} {length position : UInt64} :
    position? number length = some position ↔
      length.toNat < 2 ^ 63 ∧
        ((1 ≤ number.toInt ∧ number.toInt ≤ length.toNat ∧
            (position.toNat : Int) = number.toInt - 1) ∨
          (-length.toNat ≤ number.toInt ∧ number.toInt ≤ -1 ∧
            (position.toNat : Int) = length.toNat + number.toInt)) := by
  by_cases h : length.toNat < 2 ^ 63
  · have hoffset : offset number.toInt length.toNat =
        if 0 < number.toInt then number.toInt - 1 else length.toNat + number.toInt := rfl
    rw [position?_eq h, Option.ite_none_right_eq_some, Option.some.injEq, ← UInt64.toNat_inj]
    generalize offset number.toInt length.toNat = counted at hoffset
    have hword (hlow : 0 ≤ counted) (hhigh : counted < length.toNat) :
        ((UInt64.ofNat counted.toNat).toNat : Int) = counted := by
      have hsize : UInt64.size = 2 ^ 64 := rfl
      rw [UInt64.toNat_ofNat_of_lt' (by omega), Int.toNat_of_nonneg hlow]
    constructor
    · rintro ⟨⟨hnumber, hlow, hhigh⟩, hposition⟩
      have hcounted := hword hlow hhigh
      split at hoffset <;> omega
    · rintro ⟨-, hnamed⟩
      have hwithin : 0 ≤ counted ∧ counted < length.toNat := by split at hoffset <;> omega
      have hcounted := hword hwithin.1 hwithin.2
      split at hoffset <;> omega
  · rw [position?, if_pos ((maxValue_lt_iff length).2 (by omega))]
    exact iff_of_false nofun fun hnamed => h hnamed.1

/-- What `position?` does with words is what it should do with whole numbers. -/
structure CountsExactly (number : Int64) (length : UInt64) : Prop where
  /-- The length is taken for a signed word without loss. -/
  signed : length.toInt64.toInt = length.toNat
  /-- Counting from the oldest command on does not overflow. -/
  forth : 0 < number → (number - 1).toInt = number.toInt - 1
  /-- Counting back from the newest command does not overflow. -/
  back : number < 0 → (length.toInt64 + number).toInt = length.toNat + number.toInt
  /-- The position lies among the commands. -/
  within : ∀ position, position? number length = some position → position.toNat < length.toNat

/-- **Nothing overflows**, and no position lies beyond the commands. -/
theorem countsExactly {number : Int64} {length : UInt64} (h : length.toNat < 2 ^ 63) :
    CountsExactly number length := by
  have hcount := @toInt_count number length h
  have hzero : (0 : Int64).toInt = 0 := Int64.toInt_zero
  refine ⟨toInt_toInt64 h, fun hforth => ?_, fun hback => ?_, fun position hposition => ?_⟩
  · have hnumber : 0 < number.toInt := by
      rwa [Int64.lt_iff_toInt_lt, hzero] at hforth
    rwa [if_pos hforth, offset, if_pos hnumber] at hcount
  · have hnumber : number.toInt < 0 := by
      rwa [Int64.lt_iff_toInt_lt, hzero] at hback
    have hnot : ¬number > 0 := by
      intro hgt
      rw [gt_iff_lt, Int64.lt_iff_toInt_lt, hzero] at hgt
      omega
    rwa [if_neg hnot, offset, if_neg (by omega)] at hcount
  · have hnamed := (position?_eq_some_iff.1 hposition).2
    omega

/-! ## The commands of a record -/

/-- A number counts to a position among so many commands: from the oldest one on if it is positive,
back from the newest one if it is negative. -/
def CountsTo (number : Int) (length position : Nat) : Prop :=
  (1 ≤ number ∧ number ≤ length ∧ (position : Int) = number - 1) ∨
    (-length ≤ number ∧ number ≤ -1 ∧ (position : Int) = length + number)

theorem CountsTo.lt {number : Int} {length position : Nat} (h : CountsTo number length position) :
    position < length := by
  unfold CountsTo at h
  omega

/-- A number that counts to a position names the word that holds it. -/
theorem exists_position?_of_countsTo {number : Int64} {length : UInt64} {position : Nat}
    (hlength : length.toNat < 2 ^ 63) (h : CountsTo number.toInt length.toNat position) :
    ∃ word : UInt64, word.toNat = position ∧ position? number length = some word := by
  have hlt := h.lt
  have hsize : UInt64.size = 2 ^ 64 := rfl
  have hword : (UInt64.ofNat position).toNat = position := UInt64.toNat_ofNat_of_lt' (by omega)
  refine ⟨UInt64.ofNat position, hword, ?_⟩
  rw [position?_eq_some_iff, hword]
  exact ⟨hlength, h⟩

section

variable {commands : List String} {number : Int64}

/-- A number names the command at the position that it counts to. -/
theorem commandAt?_of_countsTo {position : Nat} (hlength : commands.length < 2 ^ 63)
    (h : CountsTo number.toInt commands.length position) :
    commandAt? commands number = commands[position]? := by
  have hsize : UInt64.size = 2 ^ 64 := rfl
  have hlong : (UInt64.ofNat commands.length).toNat = commands.length :=
    UInt64.toNat_ofNat_of_lt' (by omega)
  rw [← hlong] at hlength h
  obtain ⟨word, hword, hnamed⟩ := exists_position?_of_countsTo hlength h
  rw [commandAt?, if_pos (by omega), hnamed, Option.bind_some, hword]

/-- A number that counts to no position names no command, and no number does among more commands
than signed words can count. -/
theorem commandAt?_eq_none
    (h : commands.length < 2 ^ 63 →
      ∀ position, ¬CountsTo number.toInt commands.length position) :
    commandAt? commands number = none := by
  by_cases hsize : commands.length < UInt64.size
  · have hword : (UInt64.ofNat commands.length).toNat = commands.length :=
      UInt64.toNat_ofNat_of_lt' hsize
    have hnone : position? number (UInt64.ofNat commands.length) = none := by
      cases hposition : position? number (UInt64.ofNat commands.length) with
      | none => rfl
      | some position =>
        rw [position?_eq_some_iff, hword] at hposition
        exact absurd hposition.2 (h hposition.1 position.toNat)
    rw [commandAt?, if_pos hsize, hnone, Option.bind_none]
  · rw [commandAt?, if_neg hsize]

/-- **Counting back** from the newest command. -/
theorem commandAt?_neg {back : Nat} (hnumber : number.toInt = -back) (hpos : 0 < back)
    (hback : back ≤ commands.length) (hlength : commands.length < 2 ^ 63) :
    commandAt? commands number = commands[commands.length - back]? := by
  apply commandAt?_of_countsTo hlength
  unfold CountsTo
  omega

end

end HistoryExpansion
