import HistoryExpansion.Message
import HistoryExpansion.Proofs.Config.Basic
import HistoryExpansion.Proofs.Expression
import HistoryExpansion.Proofs.Text.Blank

/-!
# Messages under a valid trigger

A message that refers to a command is read off its trimmed text in one way only: the trigger, a text
that writes an expression, and perhaps the print suffix (`read?_eq_some_iff_writes`). Under a
trigger without blanks this goes through in both directions, whatever else the trigger looks like
(`read?_typed`).
-/

namespace HistoryExpansion.Message

/-- The suffix of a message that asks to print a command, or not to. -/
def suffix (printOnly : Bool) : List Char :=
  if printOnly then printSuffix else []

/-- A body is read by its suffix and by what stands before the suffix. -/
theorem ofBody_ofList_eq_iff {body : List Char} {expression : Expression} {printOnly : Bool} :
    ofBody (String.ofList body) = ⟨expression, printOnly⟩ ↔
      ∃ rest, body = rest ++ suffix printOnly ∧ Expression.ofChars rest = expression ∧
        (printOnly = false → ¬printSuffix <:+ rest) := by
  unfold ofBody
  rw [String.toList_ofList]
  cases hbefore : Text.before? printSuffix body with
  | none =>
    have hnot : ¬printSuffix <:+ body := by
      rintro ⟨rest, rfl⟩
      rw [Text.before?_eq_some_iff.2 rfl] at hbefore
      cases hbefore
    constructor
    · rintro ⟨⟩
      exact ⟨body, (List.append_nil body).symm, rfl, fun _ => hnot⟩
    · rintro ⟨rest, rfl, rfl, -⟩
      cases printOnly with
      | true => exact absurd (List.suffix_append rest printSuffix) hnot
      | false =>
        show (⟨Expression.ofChars (rest ++ []), false⟩ : Message) = _
        rw [List.append_nil]
  | some front =>
    obtain rfl := Text.before?_eq_some_iff.1 hbefore
    constructor
    · rintro ⟨⟩
      exact ⟨front, rfl, rfl, nofun⟩
    · rintro ⟨rest, hrest, rfl, hnot⟩
      cases printOnly with
      | true =>
        obtain rfl := List.append_cancel_right hrest
        rfl
      | false =>
        have hsuffix : printSuffix <:+ rest := by
          rw [← List.append_nil rest]
          exact ⟨front, hrest⟩
        exact absurd hsuffix (hnot rfl)

theorem read?_eq_some_iff {trigger text : String} {message : Message} :
    read? trigger text = some message ↔
      ∃ body, Text.trimmed text.toList = trigger.toList ++ body ∧
        ofBody (String.ofList body) = message := by
  simp only [read?, body?, Option.map_eq_some_iff, Text.after?_eq_some_iff]
  constructor
  · rintro ⟨_, ⟨body, hbody, rfl⟩, rfl⟩
    exact ⟨body, hbody, rfl⟩
  · rintro ⟨body, hbody, rfl⟩
    exact ⟨_, ⟨body, hbody, rfl⟩, rfl⟩

/-- **Messages that refer to a command** are the trigger, an expression and perhaps the suffix. -/
theorem read?_eq_some_iff_writes {trigger text : String} {expression : Expression}
    (h : expression ≠ .plain) {printOnly : Bool} :
    read? trigger text = some ⟨expression, printOnly⟩ ↔
      ∃ body, Text.trimmed text.toList = trigger.toList ++ body ++ suffix printOnly ∧
        Expression.Writes body expression ∧ (printOnly = false → ¬printSuffix <:+ body) := by
  simp only [read?_eq_some_iff, ofBody_ofList_eq_iff, Expression.ofChars_eq_iff_writes h]
  constructor
  · rintro ⟨_, htext, rest, rfl, hwrites, hnot⟩
    exact ⟨rest, by rw [htext, List.append_assoc], hwrites, hnot⟩
  · rintro ⟨rest, htext, hwrites, hnot⟩
    exact ⟨_, by rw [htext, List.append_assoc], rest, rfl, hwrites, hnot⟩

/-- Only a substring token can end in what looks like the print suffix. -/
theorem suffix_of_writes {body : List Char} {expression : Expression}
    (h : Expression.Writes body expression) :
    printSuffix <:+ body ↔
      ∃ token, expression = .containing token ∧ printSuffix <:+ token.toList := by
  constructor
  · intro hsuffix
    have hcolon : ':' ∈ body := hsuffix.subset List.mem_cons_self
    by_cases hcontaining : ∃ token, expression = .containing token
    · obtain ⟨token, rfl⟩ := hcontaining
      refine ⟨token, rfl, ?_⟩
      cases h with
      | containing h =>
        rcases List.suffix_cons_iff.1 hsuffix with heq | hsuffix
        · exact absurd (List.cons.inj heq).1 (by decide)
        · exact hsuffix
    · have hother := h.isWordChar_or_sign (fun token heq => hcontaining ⟨token, heq⟩) hcolon
      exact absurd hother (by decide)
  · rintro ⟨token, rfl, hsuffix⟩
    cases h with
    | containing h => exact hsuffix.trans (List.suffix_cons _ _)

/-- The trigger, an expression and the suffix, with blanks around them, trim to themselves. -/
theorem trimmed_message {config : Config} (hconfig : config.Valid) {lead trail : List Char}
    (hlead : ∀ c ∈ lead, Text.isBlank c = true) (htrail : ∀ c ∈ trail, Text.isBlank c = true)
    {body : List Char} {expression : Expression} (h : Expression.Writes body expression)
    (printOnly : Bool) :
    Text.trimmed (lead ++ (config.trigger.toList ++ body ++ suffix printOnly) ++ trail) =
      config.trigger.toList ++ body ++ suffix printOnly := by
  rw [Text.trimmed_append hlead htrail]
  refine Text.trimmed_of_unbroken fun c hc => ?_
  rcases List.mem_append.1 hc with hc | hc
  · rcases List.mem_append.1 hc with hc | hc
    · exact hconfig.trigger_unbroken c hc
    · exact h.unbroken hc
  · cases printOnly with
    | true =>
      have hprint : ∀ c ∈ printSuffix, Text.isBlank c = false :=
        List.forall_mem_cons.2 ⟨rfl, List.forall_mem_singleton.2 rfl⟩
      exact hprint c hc
    | false => exact absurd hc List.not_mem_nil

/-- A text that writes an expression is read as that expression behind a valid trigger, unless what
it ends in is taken for the print suffix. -/
theorem read?_of_writes {config : Config} (hconfig : config.Valid) {lead trail : List Char}
    (hlead : ∀ c ∈ lead, Text.isBlank c = true) (htrail : ∀ c ∈ trail, Text.isBlank c = true)
    {body : List Char} {expression : Expression} (h : Expression.Writes body expression)
    (printOnly : Bool) {text : String}
    (htext : text.toList =
      lead ++ (config.trigger.toList ++ body ++ suffix printOnly) ++ trail) :
    read? config.trigger text = some ⟨expression, printOnly⟩ ↔
      (printOnly = false → ¬printSuffix <:+ body) := by
  have hplain : expression ≠ .plain := by
    rintro rfl
    exact h.isTypable
  rw [read?_eq_some_iff_writes hplain, htext, trimmed_message hconfig hlead htrail h]
  constructor
  · rintro ⟨other, heq, -, hnot⟩
    rw [List.append_cancel_left (List.append_cancel_right heq)]
    exact hnot
  · exact fun hnot => ⟨body, rfl, h, hnot⟩

/-- **What can be typed is understood, and nothing else is.** Under a valid trigger a typable
expression in its typed form, with or without the print suffix and with any blanks around it, is
read as that expression; the only exception is a substring token that itself ends in the print
suffix. Conversely a text that is read as an expression is, once trimmed, the trigger, the typed
form of that expression and the suffix, where a number may also be written by any numeral that
stands for it. -/
theorem read?_typed {config : Config} (h : config.validate = .ok ()) :
    (∀ (expression : Expression) (printOnly : Bool) (lead trail : String),
      expression.IsTypable → (∀ c ∈ lead.toList, Text.isBlank c = true) →
        (∀ c ∈ trail.toList, Text.isBlank c = true) →
          (read? config.trigger (lead ++ config.trigger ++ expression.typed ++
              (if printOnly then ":p" else "") ++ trail) = some ⟨expression, printOnly⟩ ↔
            ¬(printOnly = false ∧
              ∃ token, expression = .containing token ∧ ":p".toList <:+ token.toList))) ∧
    (∀ (text : String) (expression : Expression) (printOnly : Bool),
      read? config.trigger text = some ⟨expression, printOnly⟩ → expression ≠ .plain →
        expression.IsTypable ∧
          ∃ body : String,
            Text.trim text = config.trigger ++ body ++ (if printOnly then ":p" else "") ∧
              (body = expression.typed ∨
                ∃ number, Expression.WritesNumber body.toList number ∧
                  expression = .index (Int64.ofIntClamp number))) := by
  have hconfig : config.Valid := Config.validate_eq_ok_iff.1 h
  have hsuffix : ∀ printOnly : Bool,
      (if printOnly then ":p" else "").toList = suffix printOnly := by decide
  constructor
  · intro expression printOnly lead trail htypable hlead htrail
    have hwrites := Expression.writes_typed htypable
    have htext : (lead ++ config.trigger ++ expression.typed ++ (if printOnly then ":p" else "") ++
        trail).toList = lead.toList ++
          (config.trigger.toList ++ expression.typed.toList ++ suffix printOnly) ++
            trail.toList := by
      simp only [String.toList_append, hsuffix, List.append_assoc]
    rw [read?_of_writes hconfig hlead htrail hwrites printOnly htext, suffix_of_writes hwrites,
      not_and]
    rfl
  · intro text expression printOnly hread hplain
    obtain ⟨body, htext, hwrites, -⟩ := (read?_eq_some_iff_writes hplain).1 hread
    refine ⟨hwrites.isTypable, String.ofList body, ?_, ?_⟩
    · rw [← String.toList_inj, Text.trim, String.toList_ofList, htext]
      simp only [String.toList_append, hsuffix, String.toList_ofList]
    · rw [← String.toList_inj, String.toList_ofList]
      exact hwrites.eq_typed

/-- A trigger that looks like a token and a suffix, in front of the least number, with blanks of
several kinds around it; and a numeral that is beyond the range. -/
theorem read?_typed_least :
    let config : Config := { trigger := "-1:p" }
    config.validate = .ok () ∧
      read? config.trigger "\u3000\t-1:p-9223372036854775808:p\u2028" =
        some ⟨.index Int64.minValue, true⟩ ∧
      read? config.trigger " -1:p-9223372036854775809" = some ⟨.index Int64.minValue, false⟩ ∧
      ∃ body : String, Text.trim " -1:p-9223372036854775809" = config.trigger ++ body ++ "" ∧
        ∃ number, Expression.WritesNumber body.toList number ∧
          Expression.index Int64.minValue = .index (Int64.ofIntClamp number) := by
  intro config
  have hdefect : config.defect? = none := by decide +kernel
  have hvalid : config.validate = .ok () := by rw [Config.validate, hdefect]
  have hread : read? config.trigger " -1:p-9223372036854775809" =
      some ⟨.index Int64.minValue, false⟩ := by decide +kernel
  obtain ⟨htyped, hunderstood⟩ := read?_typed hvalid
  refine ⟨hvalid, ?_, hread, ?_⟩
  · exact (htyped (.index Int64.minValue) true "\u3000\t" "\u2028" trivial
      (List.all_eq_true.1 (by decide)) (List.all_eq_true.1 (by decide))).2 fun hexcept =>
        Bool.noConfusion hexcept.1
  · obtain ⟨-, body, htrim, hbody⟩ := hunderstood _ _ _ hread nofun
    refine ⟨body, htrim, hbody.resolve_left ?_⟩
    rintro rfl
    exact absurd htrim (by decide +kernel)

end HistoryExpansion.Message
