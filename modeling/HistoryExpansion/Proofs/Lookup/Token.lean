import HistoryExpansion.Proofs.Lookup
import Mathlib.Data.Nat.Find

/-!
# What tokens find

A token asks for commands of a form (`Expression.Describes`): it stands at the beginning of them, or
somewhere within them. The search goes from the oldest command on and tests each one, so the tests
have to be true of exactly the commands of that form (`fits_iff_describes`), and the command found
is the oldest one of the form: `resolve_token`.
-/

namespace HistoryExpansion

/-! ## Forms of commands -/

/-- **Searching a text** finds a part wherever it stands, and only there. -/
theorem Text.occursIn_eq_true_iff {part text : List Char} :
    occursIn part text = true ↔ part <:+: text := by
  induction text with
  | nil => rw [occursIn, List.isEmpty_iff, List.infix_nil]
  | cons c text ih =>
    rw [occursIn, Bool.or_eq_true, List.isPrefixOf_iff_prefix, ih, List.infix_cons_iff]

namespace Expression

/-- A command has the form that a token asks for. Nothing but a token asks for a form. -/
def Describes : Expression → (command : String) → Prop
  | beginning token, command => ∃ rest, command = token ++ rest
  | containing token, command => ∃ front back, command = front ++ token ++ back
  | last, _ | index _, _ | plain, _ => False

theorem beginsWith_eq_true_iff {token command : String} :
    beginsWith token command = true ↔ (beginning token).Describes command := by
  rw [beginsWith, List.isPrefixOf_iff_prefix]
  constructor
  · rintro ⟨rest, hrest⟩
    refine ⟨String.ofList rest, ?_⟩
    rw [← String.toList_inj, String.toList_append, String.toList_ofList, hrest]
  · rintro ⟨rest, rfl⟩
    rw [String.toList_append]
    exact List.prefix_append _ _

theorem holds_eq_true_iff {token command : String} :
    holds token command = true ↔ (containing token).Describes command := by
  rw [holds, Text.occursIn_eq_true_iff]
  constructor
  · rintro ⟨front, back, hcommand⟩
    refine ⟨String.ofList front, String.ofList back, ?_⟩
    rw [← String.toList_inj, String.toList_append, String.toList_append, String.toList_ofList,
      String.toList_ofList, hcommand]
  · rintro ⟨front, back, rfl⟩
    rw [String.toList_append, String.toList_append]
    exact List.infix_append _ _ _

/-- The test that a token puts to commands is passed by those of its form. -/
theorem fits_iff_describes {expression : Expression} {fits : (command : String) → Bool}
    (h : expression.fits? = some fits) (command : String) :
    fits command = true ↔ expression.Describes command := by
  cases expression with
  | beginning token =>
    cases h
    exact beginsWith_eq_true_iff
  | containing token =>
    cases h
    exact holds_eq_true_iff
  | last => cases h
  | index number => cases h
  | plain => cases h

/-- A command that begins with a token holds it. -/
theorem describes_containing {token command : String}
    (h : (beginning token).Describes command) : (containing token).Describes command := by
  obtain ⟨rest, rfl⟩ := h
  exact ⟨"", rest, by rw [String.empty_append]⟩

end Expression

/-! ## The oldest command of a form -/

/-- A command of a form before which there is none. -/
structure Oldest (form : (command : String) → Prop) (commands : List String) (position : Nat)
    (found : String) : Prop where
  /-- Where it stands. -/
  stands : commands[position]? = some found
  /-- It has the form. -/
  fits : form found
  /-- No earlier command has the form. -/
  first : ∀ earlier < position, ∀ other, commands[earlier]? = some other → ¬form other

section

variable {form : (command : String) → Prop} {commands : List String} {position : Nat}
  {found : String}

/-- Where there is a command of a form, there is an oldest one, and it stands no later. -/
theorem exists_oldest_le (hfound : commands[position]? = some found) (hform : form found) :
    ∃ earlier ≤ position, ∃ other, Oldest form commands earlier other := by
  classical
  have hexists : ∃ place, ∃ other, commands[place]? = some other ∧ form other :=
    ⟨position, found, hfound, hform⟩
  obtain ⟨other, hother, hfits⟩ := Nat.find_spec hexists
  refine ⟨Nat.find hexists, Nat.find_le ⟨found, hfound, hform⟩, other, hother, hfits, ?_⟩
  intro earlier hearlier another hanother hanotherForm
  exact Nat.find_min hexists hearlier ⟨another, hanother, hanotherForm⟩

variable {fits : (command : String) → Bool} (hfits : ∀ command, fits command = true ↔ form command)

include hfits

/-- A search finds the oldest command of the form that it tests for. -/
theorem find?_eq_some_iff_oldest :
    commands.find? fits = some found ↔ ∃ position, Oldest form commands position found := by
  constructor
  · intro h
    obtain ⟨hfound, position, hlt, hstands, hfirst⟩ := List.find?_eq_some_iff_getElem.1 h
    refine ⟨position, ?_, (hfits found).1 hfound, fun earlier hearlier other hother hform => ?_⟩
    · rw [List.getElem?_eq_getElem hlt, hstands]
    · have hnot := hfirst earlier hearlier
      obtain ⟨_, rfl⟩ := List.getElem?_eq_some_iff.1 hother
      rw [(hfits _).2 hform] at hnot
      cases hnot
  · rintro ⟨position, hstands, hform, hfirst⟩
    obtain ⟨hlt, hfound⟩ := List.getElem?_eq_some_iff.1 hstands
    refine List.find?_eq_some_iff_getElem.2 ⟨(hfits found).2 hform, position, hlt, hfound, ?_⟩
    intro earlier hearlier
    have hnot := hfirst earlier hearlier _ (List.getElem?_eq_getElem (by omega))
    rw [← hfits, Bool.not_eq_true] at hnot
    rw [hnot]
    rfl

theorem find?_eq_none_iff_oldest :
    commands.find? fits = none ↔ ¬∃ position found, Oldest form commands position found := by
  rw [Option.eq_none_iff_forall_ne_some, not_exists]
  constructor
  · rintro hnone position ⟨found, holdest⟩
    exact hnone found ((find?_eq_some_iff_oldest hfits).2 ⟨position, holdest⟩)
  · intro hnone found hfound
    obtain ⟨position, holdest⟩ := (find?_eq_some_iff_oldest hfits).1 hfound
    exact hnone position ⟨found, holdest⟩

end

/-- What a token finds, and what it fails with. -/
theorem resolveIn_of_describes {expression : Expression} {fits : (command : String) → Bool}
    (h : expression.fits? = some fits) (commands : List String) :
    (∀ found, resolveIn commands expression = .ok found ↔
      ∃ position, Oldest expression.Describes commands position found) ∧
    (resolveIn commands expression = .error (.commandNotFound expression.typed) ↔
      ¬∃ position found, Oldest expression.Describes commands position found) := by
  have hfits := Expression.fits_iff_describes h
  constructor
  · intro found
    rw [resolveIn_eq_ok_iff h, find?_eq_some_iff_oldest hfits]
  · rw [← find?_eq_none_iff_oldest hfits, resolveIn_of_fits h]
    cases commands.find? fits with
    | none => exact iff_of_true rfl rfl
    | some found => exact iff_of_false nofun nofun

/-- **A token finds the oldest command of its form and nothing else.** In every record a prefix
finds the command at the least position at which a command is the token and some rest, a substring
the one at the least position at which a command is the token with something before and behind it,
whatever the token and the commands are made of. Where no command has the form, the failure says
what was looked for. What begins with a token holds it, so a substring is found no later than the
same prefix. -/
theorem resolve_token (session : String) (record : Record) (token : String) :
    let find (expression : Expression) := resolve session (some record) expression
    let begins (command : String) := ∃ rest, command = token ++ rest
    let holds (command : String) := ∃ front back, command = front ++ token ++ back
    (∀ found, find (.beginning token) = .ok found ↔
      ∃ position, Oldest begins record.commands position found) ∧
    (find (.beginning token) = .error (.commandNotFound token) ↔
      ¬∃ position found, Oldest begins record.commands position found) ∧
    (∀ found, find (.containing token) = .ok found ↔
      ∃ position, Oldest holds record.commands position found) ∧
    (find (.containing token) = .error (.commandNotFound ("?" ++ token)) ↔
      ¬∃ position found, Oldest holds record.commands position found) ∧
    ∀ position found, Oldest begins record.commands position found →
      ∃ earlier ≤ position, ∃ other, Oldest holds record.commands earlier other ∧
        find (.containing token) = .ok other := by
  intro find begins holds
  obtain ⟨hbegins, hnoneBegins⟩ :=
    @resolveIn_of_describes (.beginning token) _ rfl record.commands
  obtain ⟨hholds, hnoneHolds⟩ :=
    @resolveIn_of_describes (.containing token) _ rfl record.commands
  refine ⟨hbegins, hnoneBegins, hholds, hnoneHolds, fun position found holdest => ?_⟩
  have hheld : holds found := Expression.describes_containing holdest.fits
  obtain ⟨earlier, hle, other, hother⟩ := exists_oldest_le holdest.stands hheld
  exact ⟨earlier, hle, other, hother, (hholds other).2 ⟨earlier, hother⟩⟩

/-- A token that overlaps itself and whose characters are several octets long, at the end of one
command and at the beginning of a later one. -/
theorem resolve_token_overlapping :
    let record : Record := ⟨"s", ["ls", "x éaéé éaéa", "éaéa -v", "éaéaé"]⟩
    let find := resolve "s" (some record)
    ∃ position,
      Oldest (fun command => ∃ rest, command = "éaéa" ++ rest) record.commands position "éaéa -v" ∧
        ∃ earlier ≤ position,
          Oldest (fun command => ∃ front back, command = front ++ "éaéa" ++ back) record.commands
            earlier "x éaéé éaéa" ∧
          find (.containing "éaéa") = .ok "x éaéé éaéa" := by
  intro record find
  have hbeginning : find (.beginning "éaéa") = .ok "éaéa -v" := by rfl
  have hcontaining : find (.containing "éaéa") = .ok "x éaéé éaéa" := by rfl
  obtain ⟨hbegins, -, -, -, hlater⟩ := resolve_token "s" record "éaéa"
  obtain ⟨position, holdest⟩ := (hbegins _).1 hbeginning
  obtain ⟨earlier, hle, other, hother, hfound⟩ := hlater position _ holdest
  obtain rfl := Except.ok.inj (hcontaining.symm.trans hfound)
  exact ⟨position, holdest, earlier, hle, hother, hcontaining⟩

end HistoryExpansion
