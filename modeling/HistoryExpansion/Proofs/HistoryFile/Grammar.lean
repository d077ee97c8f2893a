import HistoryExpansion.HistoryFile.Format
import HistoryExpansion.Proofs.Json.Accepts
import HistoryExpansion.Proofs.Json.Skipped

/-!
# The history format is a grammar

Which values are records (`IsRecord`), and which texts are histories (`Holds`), apart from how they
are read. `parse` accepts exactly the histories and gives their records: `parse_eq_ok_iff`.

A record that is written as an object is read one member after the other. What one member does to
the parts that have been read is said once (`Takes`, `takes_of_readMember`, `readMember_of_takes`),
from that what all members do (`TakesAll`), and that the parts are complete in the end exactly if
the two keys of a record come once each and have values of the right shape (`takesAll_iff`).
-/

namespace HistoryExpansion.HistoryFormat

open Json

/-- The values that the members of an object have under a key. -/
def valuesOf (key : String) (members : List (List Nat × Value)) : List Value :=
  (members.filter fun member => member.1 = units key.toList).map Prod.snd

/-- A value is a record: an object whose keys are texts, the key `session` and the key `commands`
once each and all others at will, or a list of the two values. -/
inductive IsRecord : Value → Record → Prop
  | object {members : List (List Nat × Value)} {told listed : Value} {session : String}
      {commands : List String} (hkeys : ∀ member ∈ members, ∃ key : String,
        member.1 = units key.toList)
      (htold : valuesOf "session" members = [told]) (hsession : IsText told session)
      (hlisted : valuesOf "commands" members = [listed])
      (hcommands : IsListOf IsText listed commands) :
      IsRecord (.object members) ⟨session, commands⟩
  | pair {told listed : Value} {session : String} {commands : List String}
      (hsession : IsText told session) (hcommands : IsListOf IsText listed commands) :
      IsRecord (.list [told, listed]) ⟨session, commands⟩

/-- Up to the spaces around it, a text is written for a list of records. -/
def Holds (text : List Char) (records : List Record) : Prop :=
  ∃ lead written trail value, text = lead ++ (written ++ trail) ∧ Spaces lead ∧ Spaces trail ∧
    Writes written value ∧ IsListOf IsRecord value records

theorem accepts_commands : Accepts (readList readString) (IsListOf IsText) :=
  accepts_readList accepts_readString

/-! ## One member -/

/-- What a member does to the parts of a record. -/
inductive Takes (parts : Parts) : String → Value → Parts → Prop
  | session {value : Value} {session : String} (hnone : parts.session = none)
      (hsession : IsText value session) :
      Takes parts "session" value { parts with session := some session }
  | commands {value : Value} {commands : List String} (hnone : parts.commands = none)
      (hcommands : IsListOf IsText value commands) :
      Takes parts "commands" value { parts with commands := some commands }
  | other {key : String} {value : Value} (hsession : key ≠ "session")
      (hcommands : key ≠ "commands") : Takes parts key value parts

/-- What is read behind a key is a colon and a value, and the member is taken. -/
theorem takes_of_readMember {key : String} {parts next : Parts} {text rest : List Char}
    (h : readMember key parts text = .ok (next, rest)) :
    ∃ tail value, skipSpace text = ':' :: tail ∧ Begins Writes tail rest value ∧
      Takes parts key value next := by
  unfold readMember at h
  split at h
  · cases h
  split at h
  · cases h
  next hsession hcommands =>
    split at h
    · cases h
    · next tail hcolon =>
      refine ⟨tail, ?_⟩
      split at h
      · next hkey =>
        obtain ⟨⟨session, behind⟩, hread, heq⟩ := map_eq_ok_iff.1 h
        cases heq
        obtain ⟨value, hvalue, htext⟩ := accepts_readString.read_iff.1 hread
        subst hkey
        refine ⟨value, hcolon, hvalue, .session ?_ htext⟩
        simpa using hsession
      split at h
      · next hkey =>
        obtain ⟨⟨commands, behind⟩, hread, heq⟩ := map_eq_ok_iff.1 h
        cases heq
        obtain ⟨value, hvalue, hlist⟩ := accepts_commands.read_iff.1 hread
        subst hkey
        refine ⟨value, hcolon, hvalue, .commands ?_ hlist⟩
        simpa using hcommands
      · next hsession hcommands =>
        obtain ⟨behind, hskip, heq⟩ := map_eq_ok_iff.1 h
        cases heq
        obtain ⟨value, hvalue⟩ := begins_of_skipValue hskip
        exact ⟨value, hcolon, hvalue, .other hsession hcommands⟩
    · cases h

/-- A member that is taken is read, up to what cannot go on with its value. -/
theorem readMember_of_takes {key : String} {parts next : Parts} {text tail rest : List Char}
    {value : Value} (hcolon : skipSpace text = ':' :: tail) (hvalue : Begins Writes tail rest value)
    (hstops : Stops rest) (h : Takes parts key value next) :
    readMember key parts text = .ok (next, rest) := by
  cases h with
  | session hnone hsession =>
    have hread := accepts_readString.read_iff.2 ⟨value, hvalue, hsession⟩
    have hkey : ¬("session" = "commands") := by decide
    simp only [readMember, hnone, hcolon, hread, hkey, Option.isSome_none, Bool.false_eq_true,
      false_and, and_false, ↓reduceIte, Except.map]
  | commands hnone hcommands =>
    have hread := accepts_commands.read_iff.2 ⟨value, hvalue, hcommands⟩
    have hkey : ¬("commands" = "session") := by decide
    simp only [readMember, hnone, hcolon, hread, hkey, Option.isSome_none, Bool.false_eq_true,
      false_and, and_false, ↓reduceIte, Except.map]
  | other hsession hcommands =>
    have hskip := skipValue_of_begins hvalue hstops
    simp only [readMember, hcolon, hskip, hsession, hcommands, false_and, ↓reduceIte, Except.map]

/-! ## All members -/

/-- What members do to the parts of a record, one after the other. -/
inductive TakesAll : Parts → List (List Nat × Value) → Parts → Prop
  | nil {parts : Parts} : TakesAll parts [] parts
  | cons {parts next last : Parts} {key : String} {value : Value}
      {members : List (List Nat × Value)} (h : Takes parts key value next)
      (hmembers : TakesAll next members last) :
      TakesAll parts ((units key.toList, value) :: members) last

/-- The values under one key are taken into a part one after the other. -/
def Fills {α : Type} (means : Value → α → Prop) : Option α → List Value → Option α → Prop
  | before, [], after => before = after
  | before, value :: values, after =>
    before = none ∧ ∃ found, means value found ∧ Fills means (some found) values after

section Fills

variable {α : Type} {means : Value → α → Prop}

/-- A part that is there takes no more values. -/
theorem fills_some_iff {part found : α} {values : List Value} :
    Fills means (some part) values (some found) ↔ values = [] ∧ part = found := by
  cases values with
  | nil => simp only [Fills, Option.some.injEq, true_and]
  | cons value values => simp only [Fills, reduceCtorEq, false_and]

/-- A missing part is completed by exactly one value. -/
theorem fills_none_iff {found : α} {values : List Value} :
    Fills means none values (some found) ↔ ∃ value, values = [value] ∧ means value found := by
  cases values with
  | nil => simp only [Fills, reduceCtorEq, List.nil_eq, List.cons_ne_nil, false_and, exists_false]
  | cons value values =>
    simp only [Fills, fills_some_iff, true_and, List.cons.injEq]
    constructor
    · rintro ⟨part, hmeans, rfl, rfl⟩
      exact ⟨value, ⟨rfl, rfl⟩, hmeans⟩
    · rintro ⟨_, ⟨rfl, rfl⟩, hmeans⟩
      exact ⟨found, hmeans, rfl, rfl⟩

end Fills

theorem valuesOf_cons (key other : String) (value : Value) (members : List (List Nat × Value)) :
    valuesOf key ((units other.toList, value) :: members) =
      if other = key then value :: valuesOf key members else valuesOf key members := by
  unfold valuesOf
  by_cases h : other = key
  · rw [if_pos h, List.filter_cons_of_pos (by simp [h]), List.map_cons]
  · have hne : units other.toList ≠ units key.toList :=
      fun heq => h (String.toList_inj.1 (units_inj.1 heq))
    rw [if_neg h, List.filter_cons_of_neg (by simp [hne])]

/-- What all members do to the parts is, under each of the two keys, what its values do. -/
theorem fills_of_takesAll {parts last : Parts} {members : List (List Nat × Value)}
    (h : TakesAll parts members last) :
    (∀ member ∈ members, ∃ key : String, member.1 = units key.toList) ∧
      Fills IsText parts.session (valuesOf "session" members) last.session ∧
      Fills (IsListOf IsText) parts.commands (valuesOf "commands" members) last.commands := by
  induction h with
  | nil => exact ⟨fun _ h => absurd h List.not_mem_nil, rfl, rfl⟩
  | cons h _ ih =>
    obtain ⟨hkeys, hsessions, hlists⟩ := ih
    refine ⟨List.forall_mem_cons.2 ⟨⟨_, rfl⟩, hkeys⟩, ?_⟩
    cases h with
    | session hnone hsession =>
      rw [valuesOf_cons, valuesOf_cons, if_pos rfl, if_neg (by decide)]
      exact ⟨⟨hnone, _, hsession, hsessions⟩, hlists⟩
    | commands hnone hcommands =>
      rw [valuesOf_cons, valuesOf_cons, if_neg (by decide), if_pos rfl]
      exact ⟨hsessions, hnone, _, hcommands, hlists⟩
    | other hsession hcommands =>
      rw [valuesOf_cons, valuesOf_cons, if_neg hsession, if_neg hcommands]
      exact ⟨hsessions, hlists⟩

/-- Members whose values complete the parts are taken. -/
theorem takesAll_of_fills {parts last : Parts} {members : List (List Nat × Value)}
    (hkeys : ∀ member ∈ members, ∃ key : String, member.1 = units key.toList)
    (hsessions : Fills IsText parts.session (valuesOf "session" members) last.session)
    (hlists : Fills (IsListOf IsText) parts.commands (valuesOf "commands" members) last.commands) :
    TakesAll parts members last := by
  induction members generalizing parts with
  | nil =>
    have heq : parts = last := by
      cases parts
      cases last
      exact congrArg₂ Parts.mk hsessions hlists
    rw [heq]
    exact .nil
  | cons member members ih =>
    obtain ⟨⟨key, hkey⟩, hothers⟩ := List.forall_mem_cons.1 hkeys
    obtain ⟨found, value⟩ := member
    dsimp only at hkey
    subst hkey
    rw [valuesOf_cons] at hsessions hlists
    by_cases hsession : key = "session"
    · subst hsession
      rw [if_pos rfl] at hsessions
      rw [if_neg (by decide)] at hlists
      obtain ⟨hnone, session, hsession, hsessions⟩ := hsessions
      exact .cons (.session hnone hsession) (ih hothers hsessions hlists)
    by_cases hcommands : key = "commands"
    · subst hcommands
      rw [if_neg (by decide)] at hsessions
      rw [if_pos rfl] at hlists
      obtain ⟨hnone, commands, hcommands, hlists⟩ := hlists
      exact .cons (.commands hnone hcommands) (ih hothers hsessions hlists)
    · rw [if_neg hsession] at hsessions
      rw [if_neg hcommands] at hlists
      exact .cons (.other hsession hcommands) (ih hothers hsessions hlists)

/-- **The members of an object make up a record** from no parts exactly if the object is one. -/
theorem takesAll_iff {members : List (List Nat × Value)} {record : Record} :
    TakesAll {} members ⟨some record.session, some record.commands⟩ ↔
      IsRecord (.object members) record := by
  constructor
  · intro h
    obtain ⟨hkeys, hsessions, hlists⟩ := fills_of_takesAll h
    obtain ⟨told, htold, hsession⟩ := fills_none_iff.1 hsessions
    obtain ⟨listed, hlisted, hcommands⟩ := fills_none_iff.1 hlists
    exact .object hkeys htold hsession hlisted hcommands
  · intro h
    cases h with
    | object hkeys htold hsession hlisted hcommands =>
      exact takesAll_of_fills hkeys (fills_none_iff.2 ⟨_, htold, hsession⟩)
        (fills_none_iff.2 ⟨_, hlisted, hcommands⟩)

/-! ## Records -/

theorem record_eq_ok_iff {parts : Parts} {record : Record} :
    parts.record = .ok record ↔ parts = ⟨some record.session, some record.commands⟩ := by
  obtain ⟨session, commands⟩ := parts
  cases session <;> cases commands
  case some.some session commands =>
    obtain ⟨session', commands'⟩ := record
    simp only [Parts.record, Except.ok.injEq, Record.mk.injEq, Parts.mk.injEq, Option.some.injEq]
  all_goals simp only [Parts.record, reduceCtorEq, Parts.mk.injEq, false_and, and_false]

/-- Members that are read complete the parts. -/
theorem takesAll_of_readMembersWithin {fuel : Nat} {parts : Parts} {text rest : List Char}
    {record : Record} (h : readMembersWithin fuel parts text = .ok (record, rest)) :
    ∃ members, Begins (Closed '\x7d' (Member Writes)) text rest members ∧
      TakesAll parts members ⟨some record.session, some record.commands⟩ := by
  induction fuel generalizing parts text with
  | zero => cases h
  | succ fuel ih =>
    unfold readMembersWithin at h
    split at h
    · next quoted =>
      split at h
      · cases h
      · next found behind hread =>
        have hkey : Begins Literal ('"' :: quoted) behind (units (String.ofList found).toList) := by
          rw [String.toList_ofList]
          exact begins_literal_iff.2
            ⟨quoted, skipSpace_cons (by decide) _, readQuoted_eq_ok_iff.1 hread⟩
        split at h
        · cases h
        · next next left hmember =>
          obtain ⟨tail, value, hcolon, hvalue, htakes⟩ := takes_of_readMember hmember
          have hfirst : Begins (Member Writes) ('"' :: quoted) left
              (units (String.ofList found).toList, value) :=
            begins_member_iff.2 ⟨behind, tail, hkey, hcolon, hvalue⟩
          split at h
          · cases h
          · next hend =>
            obtain ⟨read, hrecord, heq⟩ := map_eq_ok_iff.1 h
            cases heq
            rw [record_eq_ok_iff] at hrecord
            subst hrecord
            exact ⟨_, hfirst.last hend, .cons htakes .nil⟩
          · next tail hcomma =>
            split at h
            · cases h
            · obtain ⟨members, hmembers, hall⟩ := ih h
              exact ⟨_, hfirst.next hcomma hmembers.of_skipSpace, .cons htakes hall⟩
          · cases h
    · cases h

/-- Members that complete the parts are read, as long as the fuel outlasts them. -/
theorem readMembersWithin_of_takesAll {fuel : Nat} {parts : Parts} {text rest : List Char}
    {members : List (List Nat × Value)} {record : Record}
    (h : Begins (Closed '\x7d' (Member Writes)) text rest members)
    (hall : TakesAll parts members ⟨some record.session, some record.commands⟩)
    (hfuel : (skipSpace text).length < fuel + rest.length) :
    readMembersWithin fuel parts (skipSpace text) = .ok (record, rest) := by
  induction fuel generalizing parts text members with
  | zero =>
    have hlt := ((begins_skipSpace (Closed.starts Member.starts)).2 h).length_lt
      (Closed.starts Member.starts)
    omega
  | succ fuel ih =>
    obtain ⟨first, others, left, rfl, hfirst, hnext⟩ := (begins_closed_iff (by decide)).1 h
    obtain ⟨behind, tail, hkey, hcolon, hvalue⟩ := begins_member_iff.1 hfirst
    obtain ⟨quoted, hquote, hcloses⟩ := begins_literal_iff.1 hkey
    have hlt := ((begins_skipSpace Member.starts).2 hfirst).length_lt Member.starts
    cases hall with
    | @cons _ next _ key value _ htakes hothers =>
      have hread := readQuoted_eq_ok_iff.2 hcloses
      rcases hnext with ⟨rfl, hend⟩ | ⟨more, hcomma, hmore⟩
      · cases hothers
        have hmember := readMember_of_takes hcolon hvalue (stops_of_skipSpace hend (by decide))
          htakes
        simp only [readMembersWithin, hquote, hread, String.ofList_toList, hmember, hend,
          record_eq_ok_iff.2 rfl, Except.map]
      · have hmember := readMember_of_takes hcolon hvalue (stops_of_skipSpace hcomma (by decide))
          htakes
        have hcommalt := length_lt_of_skipSpace hcomma
        have hskip := length_skipSpace_le more
        have hrest := ih hmore hothers (by omega)
        obtain ⟨inner, hquote'⟩ := hmore.quote (by decide)
        simp only [readMembersWithin, hquote, hread, String.ofList_toList, hmember, hcomma]
        rw [hquote'] at hrest ⊢
        exact hrest

theorem readObject_eq_ok_iff {text rest : List Char} {record : Record} :
    readObject text = .ok (record, rest) ↔ ∃ members,
      Begins (Closed '\x7d' (Member Writes)) text rest members ∧
        IsRecord (.object members) record := by
  simp only [← takesAll_iff]
  constructor
  · intro h
    unfold readObject at h
    split at h
    · cases h
    · cases h
    · obtain ⟨members, hmembers, hall⟩ := takesAll_of_readMembersWithin h
      exact ⟨members, hmembers.of_skipSpace, hall⟩
  · rintro ⟨members, hmembers, hall⟩
    have hread := readMembersWithin_of_takesAll hmembers hall
      (Nat.lt_of_lt_of_le (Nat.lt_succ_self _) (Nat.le_add_right _ _))
    obtain ⟨inner, hquote⟩ := hmembers.quote (by decide)
    unfold readObject
    rw [hquote] at hread ⊢
    exact hread

/-- Two items up to a closing bracket, one after the other. -/
theorem begins_pair {text rest : List Char} {told listed : Value}
    (h : Begins (Closed ']' Writes) text rest [told, listed]) :
    ∃ left tail behind, Begins Writes text left told ∧ skipSpace left = ',' :: tail ∧
      Begins (Closed ']' Writes) tail rest [listed] ∧ Begins Writes tail behind listed ∧
        skipSpace behind = ']' :: rest := by
  obtain ⟨first, others, left, heq, htold, hnext⟩ := (begins_closed_iff (by decide)).1 h
  cases heq
  rcases hnext with ⟨hnil, -⟩ | ⟨tail, hcomma, hlast⟩
  · cases hnil
  · obtain ⟨first, others, behind, heq, hlisted, hnext⟩ := (begins_closed_iff (by decide)).1 hlast
    cases heq
    rcases hnext with ⟨-, hend⟩ | ⟨more, -, hmore⟩
    · exact ⟨left, tail, behind, htold, hcomma, hlast, hlisted, hend⟩
    · obtain ⟨first, others, -, heq, -⟩ := (begins_closed_iff (by decide)).1 hmore
      cases heq

theorem readPair_eq_ok_iff {text rest : List Char} {record : Record} :
    readPair text = .ok (record, rest) ↔ ∃ items,
      Begins (Closed ']' Writes) text rest items ∧ IsRecord (.list items) record := by
  constructor
  · intro h
    unfold readPair at h
    split at h
    · cases h
    · cases h
    · split at h
      · cases h
      · next session left hsession =>
        obtain ⟨told, htold, htext⟩ := accepts_readString.read_iff.1 hsession
        split at h
        · cases h
        · cases h
        · next tail hcomma =>
          split at h
          · cases h
          · cases h
          · split at h
            · cases h
            · next commands behind hcommands =>
              obtain ⟨listed, hlisted, hlist⟩ := accepts_commands.read_iff.1 hcommands
              split at h
              · cases h
              · next hend =>
                cases h
                have hlast := hlisted.of_skipSpace.last hend
                exact ⟨_, htold.of_skipSpace.next hcomma hlast, .pair htext hlist⟩
              · cases h
        · cases h
  · rintro ⟨items, hitems, hrecord⟩
    cases hrecord with
    | @pair told listed session commands hsession hcommands =>
      obtain ⟨left, tail, behind, htold, hcomma, hlast, hlisted, hend⟩ := begins_pair hitems
      have htold := (begins_skipSpace Writes.starts).2 htold
      have hlisted := (begins_skipSpace Writes.starts).2 hlisted
      have htext := accepts_readString.read_iff.2 ⟨told, htold, hsession⟩
      have hlist := accepts_commands.read_iff.2 ⟨listed, hlisted, hcommands⟩
      obtain ⟨c, inner, hstart, -, hne⟩ := hitems.startsItem (Closed.starts Writes.starts)
      obtain ⟨d, inner', hstart', -, hne'⟩ := hlast.startsItem (Closed.starts Writes.starts)
      unfold readPair
      split
      · next heq => exact absurd (hstart.symm.trans heq) (List.cons_ne_nil _ _)
      · next heq => exact absurd (List.cons.inj (hstart.symm.trans heq)).1 hne
      · simp only [htext, hcomma]
        split
        · next heq => exact absurd (hstart'.symm.trans heq) (List.cons_ne_nil _ _)
        · next heq => exact absurd (List.cons.inj (hstart'.symm.trans heq)).1 hne'
        · simp only [hlist, hend]

/-- **Records** are read in either form. -/
theorem accepts_readRecord : Accepts readRecord IsRecord := by
  refine ⟨fun {text rest record} => ?_⟩
  constructor
  · intro h
    unfold readRecord at h
    split at h
    · next tail hopening =>
      obtain ⟨items, hitems, hrecord⟩ := readPair_eq_ok_iff.1 h
      exact ⟨_, begins_list_iff.2 ⟨tail, hopening, .inr hitems⟩, hrecord⟩
    · next tail hopening =>
      obtain ⟨members, hmembers, hrecord⟩ := readObject_eq_ok_iff.1 h
      exact ⟨_, begins_object_iff.2 ⟨tail, hopening, .inr hmembers⟩, hrecord⟩
    · cases h
  · rintro ⟨value, hbegins, hrecord⟩
    cases hrecord with
    | @object members _ _ _ _ hkeys htold hsession hlisted hcommands =>
      obtain ⟨tail, hopening, ⟨rfl, -⟩ | hmembers⟩ :=
        begins_object_iff.1 hbegins
      · cases htold
      · unfold readRecord
        rw [hopening]
        exact readObject_eq_ok_iff.2
          ⟨members, hmembers, .object hkeys htold hsession hlisted hcommands⟩
    | pair hsession hcommands =>
      obtain ⟨tail, hopening, ⟨hnil, -⟩ | hitems⟩ :=
        begins_list_iff.1 hbegins
      · cases hnil
      · unfold readRecord
        rw [hopening]
        exact readPair_eq_ok_iff.2 ⟨_, hitems, .pair hsession hcommands⟩

/-! ## Whole texts -/

theorem isEmpty_skipSpace_iff {text : List Char} : (skipSpace text).isEmpty ↔ Spaces text := by
  rw [List.isEmpty_iff]
  constructor
  · intro h
    obtain ⟨lead, hlead, rfl⟩ := exists_spaces h
    rwa [List.append_nil]
  · intro h
    have hskip := h.skipSpace_append []
    rwa [List.append_nil] at hskip

/-- **A text is taken for a history exactly if it is one**, and for the records that it holds. -/
theorem parse_eq_ok_iff {text : List Char} {records : List Record} :
    parse text = .ok records ↔ Holds text records := by
  have haccepts := accepts_readList accepts_readRecord
  constructor
  · intro h
    unfold parse at h
    split at h
    · cases h
    · next found rest hread =>
      split at h
      · next htrail =>
        cases h
        obtain ⟨value, ⟨lead, written, htext, hlead, hwritten⟩, hrecords⟩ :=
          haccepts.read_iff.1 hread
        exact ⟨lead, written, rest, value, htext, hlead, isEmpty_skipSpace_iff.1 htrail, hwritten,
          hrecords⟩
      · cases h
  · rintro ⟨lead, written, trail, value, htext, hlead, htrail, hwritten, hrecords⟩
    have hread := haccepts.read_iff.2 ⟨value, ⟨lead, written, htext, hlead, hwritten⟩, hrecords⟩
    unfold parse
    rw [hread]
    exact if_pos (isEmpty_skipSpace_iff.2 htrail)

theorem toOption_parse_eq_some_iff {text : List Char} {records : List Record} :
    (parse text).toOption = some records ↔ Holds text records := by
  rw [← parse_eq_ok_iff]
  cases parse text with
  | error fault => simp only [Except.toOption, reduceCtorEq]
  | ok found => simp only [Except.toOption, Option.some.injEq, Except.ok.injEq]

/-- Whether a text holds given records is found out by reading it. -/
instance {text : List Char} {records : List Record} : Decidable (Holds text records) :=
  decidable_of_iff _ toOption_parse_eq_some_iff

end HistoryExpansion.HistoryFormat
