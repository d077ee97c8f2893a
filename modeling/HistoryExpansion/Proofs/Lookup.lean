import HistoryExpansion.Proofs.Expression
import HistoryExpansion.Proofs.Position

/-!
# Looking commands up

A token puts a test to every command and finds the oldest one that passes it (`resolveIn_of_fits`).
A number finds the command at the position that it counts to (`resolveIn_index_of_countsTo`).

A numeral may have any number of digits. It is read as the nearest number that a signed word can
hold (`toInt_ofIntClamp_eq`), and since no record comes near the ends of that range, a number that
was cut names no command: it counts to a position exactly if the number that was typed does
(`countsTo_clamp_iff`). So every numeral names what it says, or fails with the number that it was
read as: `resolve_numeral`.
-/

namespace HistoryExpansion

/-! ## Tokens -/

/-- The test that a token puts to a command. Only tokens have one. -/
def Expression.fits? : Expression → Option ((command : String) → Bool)
  | beginning token => some (beginsWith token)
  | containing token => some (holds token)
  | last | index _ | plain => none

/-- A token finds the oldest command that passes its test. -/
theorem resolveIn_of_fits {expression : Expression} {fits : (command : String) → Bool}
    (h : expression.fits? = some fits) (commands : List String) :
    resolveIn commands expression =
      (commands.find? fits).elim (.error (.commandNotFound expression.typed)) .ok := by
  cases expression with
  | beginning token =>
    cases h
    rfl
  | containing token =>
    cases h
    rfl
  | last => cases h
  | index number => cases h
  | plain => cases h

theorem resolveIn_eq_ok_iff {expression : Expression} {fits : (command : String) → Bool}
    (h : expression.fits? = some fits) {commands : List String} {found : String} :
    resolveIn commands expression = .ok found ↔ commands.find? fits = some found := by
  rw [resolveIn_of_fits h]
  cases commands.find? fits with
  | none => exact iff_of_false nofun nofun
  | some other => rw [Option.elim_some, Except.ok.injEq, Option.some.injEq]

theorem find?_of_resolveIn_error {expression : Expression} {fits : (command : String) → Bool}
    (h : expression.fits? = some fits) {commands : List String} {failure : Failure}
    (hfailure : resolveIn commands expression = .error failure) : commands.find? fits = none := by
  rw [resolveIn_of_fits h] at hfailure
  cases hfound : commands.find? fits with
  | none => rfl
  | some found =>
    rw [hfound] at hfailure
    cases hfailure

/-! ## Numbers -/

/-- The signed word that is nearest to a number. -/
theorem toInt_ofIntClamp_eq (value : Int) :
    (Int64.ofIntClamp value).toInt = max (-2 ^ 63) (min value (2 ^ 63 - 1)) := by
  have hmin : Int64.minValue.toInt = -2 ^ 63 := by decide
  have hmax : Int64.maxValue.toInt = 2 ^ 63 - 1 := by decide
  by_cases hlow : Int64.minValue.toInt ≤ value
  · by_cases hhigh : value ≤ Int64.maxValue.toInt
    · rw [Int64.toInt_ofIntClamp hlow hhigh]
      omega
    · rw [Int64.ofIntClamp, dif_pos hlow, dif_neg hhigh, hmax]
      omega
  · rw [Int64.ofIntClamp, dif_neg hlow, hmin]
    omega

/-- The ends of the signed range lie beyond every record, so a number may be cut to it. -/
theorem countsTo_clamp_iff {value : Int} {length position : Nat} (h : length < 2 ^ 63 - 1) :
    CountsTo (Int64.ofIntClamp value).toInt length position ↔ CountsTo value length position := by
  rw [toInt_ofIntClamp_eq]
  unfold CountsTo
  omega

/-- A text that writes a number is classified as that number, cut to the signed range. -/
theorem Expression.classify_of_writesNumber {text : String} {value : Int}
    (h : Expression.WritesNumber text.toList value) :
    Expression.classify text = .index (Int64.ofIntClamp value) :=
  (Expression.Writes.index h).ofChars_eq

section

variable {commands : List String}

/-- A number that counts to a position finds the command there. -/
theorem resolveIn_index_of_countsTo {number : Int64} {position : Nat} {command : String}
    (hlength : commands.length < 2 ^ 63) (h : CountsTo number.toInt commands.length position)
    (hcommand : commands[position]? = some command) :
    resolveIn commands (.index number) = .ok command := by
  rw [resolveIn, commandAt?_of_countsTo hlength h, hcommand, Option.elim_some]

/-- A number that counts to no position is an invalid one. -/
theorem resolveIn_index_of_none {number : Int64}
    (h : commands.length < 2 ^ 63 →
      ∀ position, ¬CountsTo number.toInt commands.length position) :
    resolveIn commands (.index number) = .error (.invalidIndex number) := by
  rw [resolveIn, commandAt?_eq_none h, Option.elim_none]

/-- A number that was cut finds what the number that was meant counts to. -/
theorem resolveIn_of_countsTo {value : Int} {position : Nat}
    (hlength : commands.length < 2 ^ 63 - 1) (h : CountsTo value commands.length position) :
    ∃ command, commands[position]? = some command ∧
      resolveIn commands (.index (Int64.ofIntClamp value)) = .ok command := by
  have hcounts := (countsTo_clamp_iff hlength).2 h
  have hlt := h.lt
  have hcommand : commands[position]? = some commands[position] := List.getElem?_eq_getElem hlt
  exact ⟨_, hcommand, resolveIn_index_of_countsTo (by omega) hcounts hcommand⟩

/-- Counting from the oldest command, which is number one. -/
theorem resolveIn_ofNat {number : Nat} {command : String} (hlength : commands.length < 2 ^ 63)
    (hpos : 1 ≤ number) (hcommand : commands[number - 1]? = some command) :
    resolveIn commands (.index (Int64.ofNat number)) = .ok command := by
  obtain ⟨hlt, -⟩ := List.getElem?_eq_some_iff.1 hcommand
  have hnumber : (Int64.ofNat number).toInt = number := Int64.toInt_ofNat_of_lt (by omega)
  refine resolveIn_index_of_countsTo hlength ?_ hcommand
  unfold CountsTo
  omega

end

/-- **An index of any length means what it says.** A numeral, however many digits it has, is
classified as the number that it writes, cut to the signed 64-bit range. In a record whose commands
signed words can count, it finds the command that it names from the oldest one on or from the newest
one back; any other number is invalid and is reported as it was cut. Nothing overflows on the way
and no position beyond the record is looked at. -/
theorem resolve_numeral {numeral : String} {value : Int}
    (hnumeral : Expression.WritesNumber numeral.toList value) (session : String) {record : Record}
    (hlength : record.commands.length < 2 ^ 63 - 1) :
    ∃ number : Int64,
      Expression.classify numeral = .index number ∧
      number.toInt = max (-2 ^ 63) (min value (2 ^ 63 - 1)) ∧
      (UInt64.ofNat record.commands.length).toNat = record.commands.length ∧
      CountsExactly number (UInt64.ofNat record.commands.length) ∧
      let answer := resolve session (some record) (Expression.classify numeral)
      (1 ≤ value → value ≤ record.commands.length →
        ∃ command, record.commands[value.toNat - 1]? = some command ∧ answer = .ok command) ∧
      (-record.commands.length ≤ value → value ≤ -1 →
        ∃ command, record.commands.reverse[(-value).toNat - 1]? = some command ∧
          answer = .ok command) ∧
      (¬(1 ≤ value ∧ value ≤ record.commands.length) →
        ¬(-record.commands.length ≤ value ∧ value ≤ -1) →
          answer = .error (.invalidIndex number)) := by
  have hclassify := Expression.classify_of_writesNumber hnumeral
  have hsize : UInt64.size = 2 ^ 64 := rfl
  have hword : (UInt64.ofNat record.commands.length).toNat = record.commands.length :=
    UInt64.toNat_ofNat_of_lt' (by omega)
  refine ⟨_, hclassify, toInt_ofIntClamp_eq value, hword, countsExactly (by omega), ?_⟩
  rw [hclassify]
  intro answer
  refine ⟨fun hlow hhigh => ?_, fun hlow hhigh => ?_, fun hforth hback => ?_⟩
  · apply resolveIn_of_countsTo hlength
    unfold CountsTo
    omega
  · have hcounts : CountsTo value record.commands.length
        (record.commands.length - 1 - ((-value).toNat - 1)) := by
      unfold CountsTo
      omega
    rw [List.getElem?_reverse (by omega)]
    exact resolveIn_of_countsTo hlength hcounts
  · apply resolveIn_index_of_none
    intro _ position hcounts
    have hcounted := (countsTo_clamp_iff hlength).1 hcounts
    unfold CountsTo at hcounted
    omega

/-- Leading zeros behind a minus sign, and a number far below the signed range. -/
theorem resolve_numeral_long :
    let record : Record := ⟨"s", ["cd", "make", "ls"]⟩
    Expression.WritesNumber "-000000000000000000000000002".toList (-2) ∧
      Expression.WritesNumber "-99999999999999999999999".toList (-99999999999999999999999) ∧
      record.commands.length < 2 ^ 63 - 1 ∧
      resolve "s" (some record) (Expression.classify "-000000000000000000000000002") =
        .ok "make" ∧
      resolve "s" (some record) (Expression.classify "-99999999999999999999999") =
        .error (.invalidIndex Int64.minValue) := by
  intro record
  have hzeros : Expression.WritesNumber "-000000000000000000000000002".toList (-2) :=
    Expression.numeral?_eq_some_iff.1 (by decide +kernel)
  have hfar : Expression.WritesNumber "-99999999999999999999999".toList
      (-99999999999999999999999) := Expression.numeral?_eq_some_iff.1 (by decide +kernel)
  have hlength : record.commands.length < 2 ^ 63 - 1 := by decide
  refine ⟨hzeros, hfar, hlength, ?_, ?_⟩
  · obtain ⟨_, -, -, -, -, -, hback, -⟩ := resolve_numeral hzeros "s" hlength
    obtain ⟨command, hcommand, hanswer⟩ := hback (by decide) (by decide)
    cases hcommand
    exact hanswer
  · obtain ⟨number, -, hnumber, -, -, -, -, hinvalid⟩ := resolve_numeral hfar "s" hlength
    have hleast : number = Int64.minValue := by
      rw [← Int64.toInt_inj, hnumber]
      decide
    rw [← hleast]
    exact hinvalid (by decide) (by decide)

end HistoryExpansion
