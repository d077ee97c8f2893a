import HistoryExpansion.Proofs.Expression
import HistoryExpansion.Proofs.Pattern

/-!
# The pattern of expressions

The forms of expressions can be written down as one regular expression between anchors. What it
captures in a text is worked out form by form (`captures_pattern`), and the captures say what the
text is classified as: `ofChars_eq_ofCaptures`. A run of digits is a number and not a word because
the form of numbers is tried first. Together with the grammar this gives the language of each kind
of expression, and nothing else is taken for one: `classify_grammar`.
-/

namespace HistoryExpansion.Expression

/-! ## The pattern -/

/-- The ASCII digits. -/
def digitSet : CharSet :=
  .ranges [('0', '9')]

/-- The characters of words. -/
def wordSet : CharSet :=
  .ranges [('A', 'Z'), ('a', 'z'), ('0', '9'), ('_', '_')]

/-- A numeral: digits, perhaps after a minus sign. -/
def numeralPattern : Pattern :=
  .both (.maybe (.one (.literal '-'))) (.repeated (.one digitSet))

/-- The forms of expressions, a number before a word. -/
def forms : Pattern :=
  .either (.named "last" (.one (.literal '!')))
    (.either (.named "index" numeralPattern)
      (.either (.named "prefix" (.repeated (.one wordSet)))
        (.both (.one (.literal '?')) (.named "substring" (.repeated (.one .notBlank))))))

/-- The pattern of expressions. -/
def pattern : Pattern :=
  .both .start (.both (.group forms) .finish)

/-- The expression that captures stand for, read off the first name that was captured. -/
def ofCaptures (captured : List (String × List Char)) : Expression :=
  if (captured.lookup "last").isSome then last
  else
    match captured.lookup "index" with
    | some digits => index (Int64.ofIntClamp ((numeral? digits).getD 0))
    | none =>
      match captured.lookup "prefix" with
      | some token => beginning (String.ofList token)
      | none =>
        match captured.lookup "substring" with
        | some token => containing (String.ofList token)
        | none => plain

/-! ## What the pattern captures -/

theorem isRun_digitSet (text : List Char) : digitSet.isRun text = isDigits text := by
  have hdigit : digitSet.has = isDigit := by
    funext c
    exact Bool.or_false _
  rw [CharSet.isRun, hdigit]
  rfl

theorem isRun_wordSet (text : List Char) : wordSet.isRun text = isWord text := by
  have hword : wordSet.has = isWordChar := by
    funext c
    have hunderscore : (decide ('_' ≤ c) && decide (c ≤ '_')) = (c == '_') := by
      rw [Bool.eq_iff_iff, Bool.and_eq_true, decide_eq_true_iff, decide_eq_true_iff, beq_iff_eq]
      exact ⟨fun h => Char.le_antisymm h.2 h.1, fun h => h ▸ ⟨Char.le_refl _, Char.le_refl _⟩⟩
    simp only [wordSet, CharSet.has, List.any_cons, List.any_nil, Bool.or_false, hunderscore,
      isWordChar, isDigit]
    ac_rfl
  rw [CharSet.isRun, hword]
  rfl

/-- The texts that write a number at all. -/
theorem exists_writesNumber_iff {text : List Char} :
    (∃ number, WritesNumber text number) ↔
      isDigits text = true ∨ ∃ digits, text = '-' :: digits ∧ isDigits digits = true := by
  constructor
  · rintro ⟨number, h⟩
    cases h with
    | unsigned h => exact .inl h
    | negated h => exact .inr ⟨_, rfl, h⟩
  · rintro (h | ⟨digits, rfl, h⟩)
    · exact ⟨_, .unsigned h⟩
    · exact ⟨_, .negated h⟩

theorem isSome_numeral?_iff {text : List Char} :
    (numeral? text).isSome = true ↔ ∃ number, WritesNumber text number := by
  rw [Option.isSome_iff_exists]
  exact exists_congr fun number => numeral?_eq_some_iff

theorem takes_numeralPattern : numeralPattern.Takes fun text => (numeral? text).isSome := by
  have htest : (fun text => (numeral? text).isSome) =
      fun text => Pattern.behind '-' digitSet.isRun text || digitSet.isRun text := by
    funext text
    rw [Bool.eq_iff_iff, isSome_numeral?_iff, exists_writesNumber_iff, Bool.or_eq_true,
      Pattern.behind_eq_true_iff, Or.comm]
    simp only [isRun_digitSet]
  rw [htest]
  exact (Pattern.takes_repeated digitSet).maybe_both '-'

/-- The pattern finds the first of the forms that the whole text has. -/
theorem captures_pattern (text : List Char) :
    pattern.captures text =
      if text = ['!'] then some [("last", text)]
      else if (numeral? text).isSome then some [("index", text)]
      else if isWord text then some [("prefix", text)]
      else if Pattern.behind '?' isUnbroken text then some [("substring", text.tail)]
      else none := by
  have hunbroken : (Pattern.repeated (.one .notBlank)).Takes isUnbroken :=
    Pattern.takes_repeated .notBlank
  rw [pattern, Pattern.captures_anchored, Pattern.finish?_group, forms, Pattern.finish?_either,
    Pattern.finish?_either, Pattern.finish?_either, (Pattern.takes_literal '!').finish?_named,
    takes_numeralPattern.finish?_named, (Pattern.takes_repeated wordSet).finish?_named,
    hunbroken.finish?_behind, isRun_wordSet]
  by_cases hlast : text = ['!']
  · rw [if_pos hlast, if_pos (beq_iff_eq.2 hlast)]
    rfl
  · rw [if_neg hlast, if_neg fun h => hlast (beq_iff_eq.1 h), Option.none_or]
    cases (numeral? text).isSome with
    | true => rfl
    | false =>
      cases isWord text with
      | true => rfl
      | false => cases Pattern.behind '?' isUnbroken text <;> rfl

/-- **Classifying is matching**: the captures say which form was found. -/
theorem ofChars_eq_ofCaptures (text : List Char) :
    ofChars text = (pattern.captures text).elim plain ofCaptures := by
  rw [captures_pattern]
  unfold ofChars
  by_cases hlast : text = ['!']
  · rw [if_pos hlast, if_pos hlast]
    rfl
  · rw [if_neg hlast, if_neg hlast]
    cases hnumber : numeral? text with
    | some number =>
      show _ = index (Int64.ofIntClamp ((numeral? text).getD 0))
      rw [hnumber]
      rfl
    | none =>
      cases isWord text with
      | true => rfl
      | false =>
        simp only [Option.isSome_none, Bool.false_eq_true, ↓reduceIte]
        split
        · next token =>
          show _ = (if isUnbroken token then some [("substring", token)] else none).elim plain
            ofCaptures
          split <;> rfl
        · next hother =>
          have hbehind : Pattern.behind '?' isUnbroken text = false := by
            rw [Bool.eq_false_iff]
            intro h
            obtain ⟨token, htext, -⟩ := Pattern.behind_eq_true_iff.1 h
            exact hother token htext
          rw [hbehind]
          rfl

/-! ## The language of each kind -/

section

variable {text : List Char} {token : String}

theorem ofChars_eq_last_iff : ofChars text = last ↔ text = ['!'] := by
  have hne : last ≠ plain := nofun
  rw [ofChars_eq_iff_writes hne]
  constructor
  · intro h
    cases h
    rfl
  · rintro rfl
    exact .last

theorem ofChars_eq_index_iff {number : Int64} :
    ofChars text = index number ↔
      ∃ value, WritesNumber text value ∧ number = Int64.ofIntClamp value := by
  have hne : index number ≠ plain := nofun
  rw [ofChars_eq_iff_writes hne]
  constructor
  · intro h
    cases h with
    | index h => exact ⟨_, h, rfl⟩
  · rintro ⟨value, h, rfl⟩
    exact .index h

theorem ofChars_eq_beginning_iff :
    ofChars text = beginning token ↔
      text = token.toList ∧ isWord text = true ∧ isDigits text = false := by
  have hne : beginning token ≠ plain := nofun
  rw [ofChars_eq_iff_writes hne]
  constructor
  · intro h
    cases h with
    | beginning hword hdigits => exact ⟨rfl, hword, hdigits⟩
  · rintro ⟨rfl, hword, hdigits⟩
    exact .beginning hword hdigits

theorem ofChars_eq_containing_iff :
    ofChars text = containing token ↔
      text = '?' :: token.toList ∧ isUnbroken token.toList = true := by
  have hne : containing token ≠ plain := nofun
  rw [ofChars_eq_iff_writes hne]
  constructor
  · intro h
    cases h with
    | containing h => exact ⟨rfl, h⟩
  · rintro ⟨rfl, h⟩
    exact .containing h

/-- Plain texts are those that write nothing. -/
theorem ofChars_eq_plain_iff_writes :
    ofChars text = plain ↔ ∀ expression, ¬Writes text expression := by
  constructor
  · intro hplain expression h
    rw [h.ofChars_eq] at hplain
    exact (hplain ▸ h.isTypable : plain.IsTypable)
  · intro hnone
    exact (writes_or_plain text).resolve_left (hnone _)

theorem ofChars_eq_plain_iff :
    ofChars text = plain ↔
      text ≠ ['!'] ∧ (∀ value, ¬WritesNumber text value) ∧ isWord text = false ∧
        ∀ token : String, text = '?' :: token.toList → isUnbroken token.toList = false := by
  rw [ofChars_eq_plain_iff_writes]
  constructor
  · intro hnone
    refine ⟨?_, fun value h => hnone _ (.index h), ?_, ?_⟩
    · rintro rfl
      exact hnone _ .last
    · rw [Bool.eq_false_iff]
      intro hword
      cases hdigits : isDigits text with
      | true => exact hnone _ (.index (.unsigned hdigits))
      | false =>
        have hbeginning : ofChars text = beginning (String.ofList text) :=
          ofChars_eq_beginning_iff.2 ⟨String.toList_ofList.symm, hword, hdigits⟩
        have hne : beginning (String.ofList text) ≠ plain := nofun
        exact hnone _ ((ofChars_eq_iff_writes hne).1 hbeginning)
    · rintro token rfl
      rw [Bool.eq_false_iff]
      exact fun h => hnone _ (.containing h)
  · rintro ⟨hlast, hindex, hbeginning, hcontaining⟩ expression h
    cases h with
    | last => exact hlast rfl
    | index h => exact hindex _ h
    | beginning hword hdigits =>
      rw [hword] at hbeginning
      cases hbeginning
    | containing h =>
      rw [hcontaining _ rfl] at h
      cases h

end

theorem toList_eq_question_cons_iff {text token : String} :
    text.toList = '?' :: token.toList ↔ text = "?" ++ token := by
  rw [← String.toList_inj, String.toList_append]
  rfl

/-- Nothing that is written ends in a line feed. -/
theorem classify_append_lineFeed (text : String) : classify (text ++ "\n") = plain := by
  rw [classify, ofChars_eq_plain_iff_writes]
  intro expression h
  have hfeed : '\n' ∈ (text ++ "\n").toList := by
    rw [String.toList_append]
    exact List.mem_append_right _ (List.mem_singleton_self _)
  exact absurd (h.unbroken hfeed) (by decide)

/-- Only a token behind a question mark may hold other characters than ASCII ones. -/
theorem classify_of_not_ascii {text : String} {c : Char} (hc : c ∈ text.toList)
    (hlarge : 128 ≤ c.toNat) (hstart : text.toList.head? ≠ some '?') : classify text = plain := by
  rw [classify, ofChars_eq_plain_iff_writes]
  intro expression h
  have hother (token : String) : expression ≠ .containing token := by
    rintro rfl
    rw [(ofChars_eq_containing_iff.1 h.ofChars_eq).1] at hstart
    exact hstart rfl
  rcases h.isWordChar_or_sign hother hc with hword | rfl | rfl
  · have hsmall := (toNat_of_isWordChar hword).2
    exact absurd (Nat.le_trans hlarge hsmall) (by decide)
  · exact absurd hlarge (by decide)
  · exact absurd hlarge (by decide)

/-- **`classify` recognises exactly its grammar**, on every text. It agrees with the pattern, which
is written as it says here and which prefers first alternatives. The last command is written by one
text only; a number by a run of digits, perhaps after one minus sign, and it is cut to the signed
64-bit range; a word that is not all digits writes itself; and a question mark with a non-empty
token without blanks behind it writes that token. Every other text is plain: the empty one, whatever
ends in a line feed, and whatever holds a character beyond ASCII and does not start with a question
mark. -/
theorem classify_grammar (text : String) :
    pattern.text = "^(?:(?P<last>!)|(?P<index>-?[0-9]+)|(?P<prefix>[A-Za-z0-9_]+)" ++
      "|\\?(?P<substring>\\S+))$" ∧
    classify text = (pattern.captures text.toList).elim plain ofCaptures ∧
    (classify text = last ↔ text = "!") ∧
    (∀ number, classify text = index number ↔
      ∃ value, WritesNumber text.toList value ∧ number = Int64.ofIntClamp value) ∧
    (∀ token, classify text = beginning token ↔
      text = token ∧ isWord text.toList = true ∧ isDigits text.toList = false) ∧
    (∀ token, classify text = containing token ↔
      text = "?" ++ token ∧ isUnbroken token.toList = true) ∧
    (classify text = plain ↔
      text ≠ "!" ∧ (∀ value, ¬WritesNumber text.toList value) ∧ isWord text.toList = false ∧
        ∀ token, text = "?" ++ token → isUnbroken token.toList = false) ∧
    classify "" = plain ∧ classify (text ++ "\n") = plain ∧
    (∀ c ∈ text.toList, 128 ≤ c.toNat → text.toList.head? ≠ some '?' →
      classify text = plain) := by
  refine ⟨by decide +kernel, ofChars_eq_ofCaptures _, ?_, fun number => ?_, fun token => ?_,
    fun token => ?_, ?_, rfl, classify_append_lineFeed text, fun c => classify_of_not_ascii⟩
  · rw [classify, ofChars_eq_last_iff, ← String.toList_inj]
    rfl
  · rw [classify, ofChars_eq_index_iff]
  · rw [classify, ofChars_eq_beginning_iff, String.toList_inj]
  · rw [classify, ofChars_eq_containing_iff, toList_eq_question_cons_iff]
  · simp only [classify, ofChars_eq_plain_iff, toList_eq_question_cons_iff, ne_eq,
      ← String.toList_inj]
    rfl

end HistoryExpansion.Expression
