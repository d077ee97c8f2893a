import HistoryExpansion.HistoryFile.Format
import HistoryExpansion.Proofs.Json.Reader

/-!
# The history format is read back

`parse` inverts `render` on every list of records, whatever characters their sessions and commands
are made of and however many commands they hold: `parse_render`. The layout is followed from the
inside out: a list of written items (`reads_layList`), the members of a record
(`readMember_session`, `readMember_commands`), a record (`reads_layRecord`).
-/

namespace HistoryExpansion.HistoryFormat

open Json

/-! ## Lists -/

theorem isSpace_of_mem_newline {indent : Nat} {c : Char} (h : c ∈ newline indent) :
    isSpace c = true := by
  rcases List.mem_cons.1 h with rfl | h
  · rfl
  · rw [List.eq_of_mem_replicate h]
    rfl

/-- **A list laid out over several lines** reads as the values that its items were written for. -/
theorem reads_layList {α : Type} {item : Reader α} {write : α → List Char} {values : List α}
    (h : ∀ value ∈ values, Reads item (write value) value) (indent : Nat) :
    Reads (readList item) (layList indent (values.map write)) values := by
  cases values with
  | nil => exact ⟨fun _ => rfl, '[', [']'], rfl, by decide, by decide⟩
  | cons first values =>
    refine ⟨fun rest => ?_, '[', _, rfl, by decide, by decide⟩
    have hspace : ∀ n, ∀ c ∈ newline n, isSpace c = true := fun _ _ => isSpace_of_mem_newline
    have hlen := length_le_length_intercalate (List.cons_ne_nil ',' (newline (indent + 2)))
      (write first) (values.map write)
    have hitems := fun fuel hfuel => readItemsWithin_intercalate (hspace (indent + 2))
      (hspace indent) fuel h hfuel rest
    have hstarts := ((h first List.mem_cons_self).starts.intercalate
      (',' :: newline (indent + 2)) (values.map write)).append (newline indent ++ ']' :: rest)
    obtain ⟨c, tail, hstart, hc, hne⟩ := hstarts
    simp only [List.map_cons] at hitems
    rw [hstart] at hitems
    unfold readList
    simp only [layList, List.map_cons, List.cons_append, List.append_assoc, List.nil_append,
      skipSpace_cons (show isSpace '[' = false by decide), skipSpace_append (hspace _), hstart,
      skipSpace_cons hc]
    split
    · next heq => exact absurd heq (List.cons_ne_nil _ _)
    · next heq => exact absurd (List.cons.inj heq).1 hne
    · refine hitems _ ?_
      rw [← hstart, List.length_append]
      rw [List.length_map] at hlen
      omega

/-! ## Records -/

/-- Behind the key `session`, a colon and the literal of a session are read into the parts. -/
theorem readMember_session {parts : Parts} (h : parts.session = none) (session : String)
    (rest : List Char) :
    readMember "session" parts (':' :: ' ' :: (quote session.toList ++ rest)) =
      .ok ({ parts with session := some session }, rest) := by
  have hspace : ∀ c ∈ [' '], isSpace c = true := List.forall_mem_singleton.2 rfl
  have hread : readString (' ' :: (quote session.toList ++ rest)) = .ok (session, rest) :=
    (readString_append hspace _).trans (readString_quote session rest)
  simp only [readMember, h, Option.isSome_none, Bool.false_eq_true, and_false, ↓reduceIte,
    skipSpace_cons (show isSpace ':' = false by decide), hread, Except.map]
  rfl

/-- Behind the key `commands`, a colon and the list of the commands are read into the parts. -/
theorem readMember_commands {parts : Parts} (h : parts.commands = none) (commands : List String)
    (rest : List Char) :
    readMember "commands" parts (':' :: ' ' ::
        (layList 4 (commands.map fun command => quote command.toList) ++ rest)) =
      .ok ({ parts with commands := some commands }, rest) := by
  have hspace : ∀ c ∈ [' '], isSpace c = true := List.forall_mem_singleton.2 rfl
  have hread : readList readString
      (' ' :: (layList 4 (commands.map fun command => quote command.toList) ++ rest)) =
        .ok (commands, rest) :=
    (readList_append hspace _).trans
      ((reads_layList (fun command _ => reads_quote command) 4).read rest)
  have hkey : ¬("commands" = "session") := by decide
  simp only [readMember, h, hkey, Option.isSome_none, Bool.false_eq_true, false_and, and_false,
    ↓reduceIte, skipSpace_cons (show isSpace ':' = false by decide), hread, Except.map]

/-- A member that is followed by another one is read into the parts. -/
theorem readMembersWithin_next {parts parts' : Parts} {key next : String} {text rest : List Char}
    {indent : Nat} (fuel : Nat) (h : readMember key parts text =
      .ok (parts', ',' :: (newline indent ++ (quote next.toList ++ rest)))) :
    readMembersWithin (fuel + 1) parts (quote key.toList ++ text) =
      readMembersWithin fuel parts' (quote next.toList ++ rest) := by
  have hquoted := readQuoted_flatMap_escape key.toList text
  have hspace (text : List Char) : skipSpace (newline indent ++ text) = skipSpace text :=
    skipSpace_append (fun _ => isSpace_of_mem_newline) text
  simp only [quote, List.cons_append, List.append_assoc, List.nil_append] at h ⊢
  simp only [readMembersWithin, hquoted, String.ofList_toList, h,
    skipSpace_cons (show isSpace ',' = false by decide), hspace,
    skipSpace_cons (show isSpace '"' = false by decide)]

/-- A member that is followed by the closing brace completes the record. -/
theorem readMembersWithin_last {parts parts' : Parts} {key : String} {text rest : List Char}
    {indent : Nat} (fuel : Nat)
    (h : readMember key parts text = .ok (parts', newline indent ++ '\x7d' :: rest)) :
    readMembersWithin (fuel + 1) parts (quote key.toList ++ text) =
      parts'.record.map fun record => (record, rest) := by
  have hquoted := readQuoted_flatMap_escape key.toList text
  have hspace : skipSpace (newline indent ++ '\x7d' :: rest) = '\x7d' :: rest := by
    rw [skipSpace_append (fun _ => isSpace_of_mem_newline), skipSpace_cons (by decide)]
  simp only [quote, List.cons_append, List.append_assoc, List.nil_append, readMembersWithin,
    hquoted, String.ofList_toList, h, hspace]

/-- Behind the opening brace, the members of a record are read from the first key on. -/
theorem readObject_quote {indent : Nat} (key : String) (text : List Char) :
    readObject (newline indent ++ (quote key.toList ++ text)) =
      readMembersWithin ((quote key.toList ++ text).length + 1) {} (quote key.toList ++ text) := by
  unfold readObject quote
  rw [skipSpace_append (fun _ => isSpace_of_mem_newline), List.cons_append,
    skipSpace_cons (by decide)]
  rfl

/-- **A record laid out over several lines** reads as that record. -/
theorem reads_layRecord (record : Record) : Reads readRecord (layRecord record) record := by
  refine ⟨fun rest => ?_, '\x7b', _, rfl, by decide, by decide⟩
  let behindCommands := newline 2 ++ '\x7d' :: rest
  let commands := ':' :: ' ' ::
    (layList 4 (record.commands.map fun command => quote command.toList) ++ behindCommands)
  let behindSession := ',' :: (newline 4 ++ (quote "commands".toList ++ commands))
  let members := quote "session".toList ++
    (':' :: ' ' :: (quote record.session.toList ++ behindSession))
  have hwritten : layRecord record ++ rest = '\x7b' :: (newline 4 ++ members) := by
    simp only [layRecord, sessionKey, commandsKey, members, behindSession, commands,
      behindCommands, List.append_assoc, List.cons_append, List.nil_append]
  have hfuel : members.length = members.length - 1 + 1 := rfl
  calc readRecord (layRecord record ++ rest)
      = readObject (newline 4 ++ members) := by
        rw [hwritten, readRecord, skipSpace_cons (by decide)]
        rfl
    _ = readMembersWithin (members.length + 1) {} members := readObject_quote _ _
    _ = readMembersWithin members.length ⟨some record.session, none⟩
          (quote "commands".toList ++ commands) :=
        readMembersWithin_next _ (readMember_session rfl _ _)
    _ = .ok (record, rest) := by
        rw [hfuel, readMembersWithin_last _ (readMember_commands rfl _ _)]
        rfl

/-- **Reading undoes writing** for every list of records. -/
theorem parse_render (records : List Record) : parse (render records) = .ok records := by
  have hread : readList readRecord (layList 0 (records.map layRecord) ++ []) = .ok (records, []) :=
    (reads_layList (fun record _ => reads_layRecord record) 0).read []
  rw [List.append_nil] at hread
  simp only [parse, render, hread, skipSpace, List.dropWhile_nil, List.isEmpty_nil, ↓reduceIte]

end HistoryExpansion.HistoryFormat
