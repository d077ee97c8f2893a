import HistoryExpansion.Proofs.Position
import Mathlib.Logic.ExistsUnique

/-!
# Every position has two numbers

**Counting with checks.** `checkedPosition` takes the steps of `position?` one by one, works each of
them out in whole numbers and puts the result back into a word only if the word can hold it. No step
is ever refused, whatever the number and the length are, and what comes out is what `position?` says
(`checkedPosition_eq`): its words never lose a value on the way.

**Numbers of a position.** Each position has one positive number, which counts to it from the oldest
command on, and one negative number, which counts back to it from the newest
(`existsUnique_forth`, `existsUnique_back`). The two lie one more than the length apart, and this is
how any two numbers of one position lie (`position?_eq_position?_iff`).

Both together with what a number names: `position?_numberings`.
-/

namespace HistoryExpansion

/-! ## Counting with checks -/

/-- The steps of counting to a position that put a result into a word. -/
inductive CountStep
  /-- The length is taken for a signed word. -/
  | length
  /-- A positive number counts from the oldest command on. -/
  | forth
  /-- A negative number counts back from the newest command. -/
  | back
  /-- The position is taken for an unsigned word. -/
  | position

namespace CountStep

/-- The signed word that holds the result of a step, or the step that overflowed. -/
def signed (step : CountStep) (value : Int) : Except CountStep Int64 :=
  if -2 ^ 63 ≤ value ∧ value < 2 ^ 63 then .ok (Int64.ofInt value) else .error step

/-- The unsigned word that holds the result of a step, or the step that overflowed. -/
def unsigned (step : CountStep) (value : Int) : Except CountStep UInt64 :=
  if 0 ≤ value ∧ value < 2 ^ 64 then .ok (UInt64.ofNat value.toNat) else .error step

variable {step : CountStep} {value : Int}

theorem signed_eq_ok_iff {word : Int64} : step.signed value = .ok word ↔ word.toInt = value := by
  rw [signed]
  constructor
  · intro h
    split at h
    · next hfits =>
      cases h
      exact Int64.toInt_ofInt_of_le hfits.1 hfits.2
    · cases h
  · rintro rfl
    rw [if_pos ⟨word.le_toInt, word.toInt_lt⟩, Int64.ofInt_toInt]

theorem unsigned_eq_ok_iff {word : UInt64} :
    step.unsigned value = .ok word ↔ (word.toNat : Int) = value := by
  have hsize : UInt64.size = 2 ^ 64 := rfl
  rw [unsigned]
  constructor
  · intro h
    split at h
    · next hfits =>
      cases h
      rw [UInt64.toNat_ofNat_of_lt' (by omega), Int.toNat_of_nonneg hfits.1]
    · cases h
  · rintro rfl
    have hhigh := word.toNat_lt
    rw [if_pos (by omega), Int.toNat_natCast, UInt64.ofNat_toNat]

end CountStep

/-- Counting to a position from one of the ends of `count` commands. -/
def checkedCount (number count : Int64) : Except CountStep Int64 :=
  if number > 0 then CountStep.forth.signed (number.toInt - 1)
  else CountStep.back.signed (count.toInt + number.toInt)

/-- The position that a number counts to, where every step may overflow. A length that signed words
cannot count and a number that is zero are turned away before anything is counted. -/
def checkedPosition (number : Int64) (length : UInt64) : Except CountStep (Option UInt64) :=
  if length > Int64.maxValue.toUInt64 then .ok none
  else if number = 0 then .ok none
  else do
    let count ← CountStep.length.signed length.toNat
    let position ← checkedCount number count
    if 0 ≤ position ∧ position < count then some <$> CountStep.position.unsigned position.toInt
    else return none

/-- Neither way of counting overflows. -/
theorem checkedCount_eq {number : Int64} {length : UInt64} (h : CountsExactly number length)
    (hzero : number ≠ 0) :
    checkedCount number length.toInt64 =
      .ok (if number > 0 then number - 1 else length.toInt64 + number) := by
  rw [checkedCount]
  split
  · next hforth => exact CountStep.signed_eq_ok_iff.2 (h.forth hforth)
  · next hforth =>
    -- Zero was turned away, so a number that is not positive is negative.
    have hback : number < 0 := by
      rw [gt_iff_lt, Int64.lt_iff_toInt_lt, Int64.toInt_zero] at hforth
      rw [ne_eq, ← Int64.toInt_inj, Int64.toInt_zero] at hzero
      rw [Int64.lt_iff_toInt_lt, Int64.toInt_zero]
      omega
    rw [h.signed]
    exact CountStep.signed_eq_ok_iff.2 (h.back hback)

/-- A position that does not lie before the oldest command is held by an unsigned word. -/
theorem unsigned_position {position : Int64} (h : 0 ≤ position) :
    CountStep.position.unsigned position.toInt = .ok position.toUInt64 := by
  have hnonneg := Int64.le_iff_toInt_le.1 h
  rw [Int64.toInt_zero] at hnonneg
  apply CountStep.unsigned_eq_ok_iff.2
  rw [Int64.toNat_toUInt64_of_le h, Int64.toNatClampNeg, Int.toNat_of_nonneg hnonneg]

/-- **No step overflows**, and the steps come to what `position?` says. -/
theorem checkedPosition_eq (number : Int64) (length : UInt64) :
    checkedPosition number length = .ok (position? number length) := by
  rw [checkedPosition, position?]
  by_cases hlength : length > Int64.maxValue.toUInt64
  · rw [if_pos hlength, if_pos hlength]
  rw [if_neg hlength, if_neg hlength]
  by_cases hzero : number = 0
  · rw [if_pos hzero, if_pos hzero]
  rw [if_neg hzero, if_neg hzero]
  have hexact : CountsExactly number length := by
    rw [maxValue_lt_iff] at hlength
    exact countsExactly (by omega)
  rw [CountStep.signed_eq_ok_iff.2 hexact.signed]
  dsimp only [bind, Except.bind]
  rw [checkedCount_eq hexact hzero]
  dsimp only
  -- Both sides now ask whether the same word lies among the commands.
  generalize (if number > 0 then number - 1 else length.toInt64 + number) = position
  split
  · next hwithin =>
    rw [unsigned_position hwithin.1]
    rfl
  · rfl

/-! ## Numbers of a position -/

/-- A number is in the range of both numberings: it lies between one and the length, or it lies as
far below zero. -/
def InRange (number : Int) (length : Nat) : Prop :=
  (1 ≤ number ∧ number ≤ length) ∨ (-length ≤ number ∧ number ≤ -1)

theorem inRange_iff_exists_countsTo {number : Int} {length : Nat} :
    InRange number length ↔ ∃ position, CountsTo number length position := by
  unfold InRange CountsTo
  constructor
  · rintro (⟨hlow, hhigh⟩ | ⟨hlow, hhigh⟩)
    · exact ⟨(number - 1).toNat, by omega⟩
    · exact ⟨(length + number).toNat, by omega⟩
  · rintro ⟨position, hcounts⟩
    omega

/-- Two numbers count to one position exactly if they lie one more than the length apart. -/
theorem CountsTo.eq_iff {number other : Int} {length position another : Nat}
    (h : CountsTo number length position) (hother : CountsTo other length another)
    (hne : number ≠ other) : position = another ↔ (number - other).natAbs = length + 1 := by
  unfold CountsTo at h hother
  omega

/-- A whole number that a signed word can hold is held by exactly one. -/
theorem existsUnique_toInt {value : Int} (hlow : -2 ^ 63 ≤ value) (hhigh : value < 2 ^ 63) :
    ∃! word : Int64, word.toInt = value := by
  have hvalue : (Int64.ofInt value).toInt = value := Int64.toInt_ofInt_of_le hlow hhigh
  refine ⟨Int64.ofInt value, hvalue, fun word hword => ?_⟩
  rw [← Int64.toInt_inj, hword, hvalue]

section

variable {number : Int64} {length position : UInt64}

theorem position?_lt (h : position? number length = some position) : position < length := by
  obtain ⟨-, hcounts⟩ := position?_eq_some_iff.1 h
  exact UInt64.lt_iff_toNat_lt.2 (CountsTo.lt hcounts)

variable (hlength : length.toNat < 2 ^ 63)

include hlength

/-- Two numbers in range name one position exactly if they lie one more than the length apart. -/
theorem position?_eq_position?_iff {other : Int64} (hnumber : InRange number.toInt length.toNat)
    (hother : InRange other.toInt length.toNat) (hne : number ≠ other) :
    position? number length = position? other length ↔
      (number.toInt - other.toInt).natAbs = length.toNat + 1 := by
  obtain ⟨position, hcounts⟩ := inRange_iff_exists_countsTo.1 hnumber
  obtain ⟨another, hcountsOther⟩ := inRange_iff_exists_countsTo.1 hother
  obtain ⟨word, hword, hnamed⟩ := exists_position?_of_countsTo hlength hcounts
  obtain ⟨wordOther, hwordOther, hnamedOther⟩ := exists_position?_of_countsTo hlength hcountsOther
  rw [hnamed, hnamedOther, Option.some.injEq, ← UInt64.toNat_inj, hword, hwordOther]
  exact hcounts.eq_iff hcountsOther fun heq => hne (Int64.toInt_inj.1 heq)

variable (hposition : position < length)

include hposition

/-- The number that counts to a position from the oldest command on. -/
theorem names_forth_iff :
    0 < number ∧ position? number length = some position ↔
      number.toInt = position.toNat + 1 := by
  rw [UInt64.lt_iff_toNat_lt] at hposition
  rw [Int64.lt_iff_toInt_lt, Int64.toInt_zero, position?_eq_some_iff]
  omega

/-- The number that counts back to a position from the newest command. -/
theorem names_back_iff :
    number < 0 ∧ position? number length = some position ↔
      number.toInt = position.toNat - length.toNat := by
  rw [UInt64.lt_iff_toNat_lt] at hposition
  rw [Int64.lt_iff_toInt_lt, Int64.toInt_zero, position?_eq_some_iff]
  omega

theorem existsUnique_forth :
    ∃! number : Int64, 0 < number ∧ position? number length = some position := by
  have hlt := UInt64.lt_iff_toNat_lt.1 hposition
  refine (existsUnique_congr fun _ => names_forth_iff hlength hposition).2 ?_
  exact existsUnique_toInt (by omega) (by omega)

theorem existsUnique_back :
    ∃! number : Int64, number < 0 ∧ position? number length = some position := by
  have hlt := UInt64.lt_iff_toNat_lt.1 hposition
  refine (existsUnique_congr fun _ => names_back_iff hlength hposition).2 ?_
  exact existsUnique_toInt (by omega) (by omega)

end

/-- **A record has two exact numberings.** Counting to a position never overflows, whatever the
number and the length are: the steps, each made with a check, come to what the words come to. A
number names a position exactly if signed words can count the commands and the number lies between
one and the length, and then it counts from the oldest command on, or it lies as far below zero, and
then it counts back from the newest. So what it names lies within the record, each position has one
positive and one negative number, and two different numbers in range name the same position exactly
if they lie one more than the length apart. -/
theorem position?_numberings (number : Int64) (length : UInt64) :
    checkedPosition number length = .ok (position? number length) ∧
    (∀ position, position? number length = some position ↔
      length.toNat ≤ 2 ^ 63 - 1 ∧
        ((1 ≤ number.toInt ∧ number.toInt ≤ length.toNat ∧
            (position.toNat : Int) = number.toInt - 1) ∨
          (-length.toNat ≤ number.toInt ∧ number.toInt ≤ -1 ∧
            (position.toNat : Int) = length.toNat + number.toInt))) ∧
    (∀ position, position? number length = some position → position < length) ∧
    (length.toNat ≤ 2 ^ 63 - 1 →
      (∀ position < length,
        (∃! forth : Int64, 0 < forth ∧ position? forth length = some position) ∧
          ∃! back : Int64, back < 0 ∧ position? back length = some position) ∧
      ∀ other, number ≠ other →
        InRange number.toInt length.toNat → InRange other.toInt length.toNat →
          (position? number length = position? other length ↔
            (number.toInt - other.toInt).natAbs = length.toNat + 1)) := by
  have hcountable : length.toNat ≤ 2 ^ 63 - 1 ↔ length.toNat < 2 ^ 63 := by omega
  refine ⟨checkedPosition_eq number length, fun position => ?_, fun position => position?_lt, ?_⟩
  · rw [hcountable]
    exact position?_eq_some_iff
  · rw [hcountable]
    intro hlength
    constructor
    · intro position hposition
      exact ⟨existsUnique_forth hlength hposition, existsUnique_back hlength hposition⟩
    · intro other hne hnumber hother
      exact position?_eq_position?_iff hlength hnumber hother hne

/-- The longest record that signed words can count: its newest command is named by the greatest
number and by minus one, its oldest one by a single negative number, and the least number goes back
too far by one. With one command more, minus one names nothing. -/
theorem position?_numberings_longest :
    let length := Int64.maxValue.toUInt64
    length.toNat ≤ 2 ^ 63 - 1 ∧ 0 < length ∧ Int64.maxValue ≠ -1 ∧
      InRange Int64.maxValue.toInt length.toNat ∧ InRange (-1 : Int64).toInt length.toNat ∧
      position? Int64.maxValue length = position? (-1) length ∧
      position? (-1) length = some (length - 1) ∧
      (∃! back : Int64, back < 0 ∧ position? back length = some 0) ∧
      position? Int64.minValue length = none ∧
      position? (-1) (length + 1) = none := by
  intro length
  have hcountable : length.toNat ≤ 2 ^ 63 - 1 := by decide +kernel
  have hoccupied : 0 < length := by decide +kernel
  have hgreatest : InRange Int64.maxValue.toInt length.toNat := .inl (by decide +kernel)
  have hnewest : InRange (-1 : Int64).toInt length.toNat := .inr (by decide +kernel)
  obtain ⟨-, hnames, -, hnumbers⟩ := position?_numberings (-1) length
  obtain ⟨hunique, hsame⟩ := hnumbers hcountable
  refine ⟨hcountable, hoccupied, by decide, hgreatest, hnewest, ?_, ?_, (hunique 0 hoccupied).2, ?_,
    ?_⟩
  · exact ((hsame Int64.maxValue (by decide) hnewest hgreatest).2 (by decide +kernel)).symm
  · exact (hnames (length - 1)).2 (by decide +kernel)
  · decide +kernel
  · decide +kernel

end HistoryExpansion
