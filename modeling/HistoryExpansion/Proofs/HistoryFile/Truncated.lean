import HistoryExpansion.Proofs.HistoryFile.Opening
import HistoryExpansion.Proofs.Json.Truncated

/-!
# History files that are cut off

A history file that was written and then cut off anywhere before its end is never taken for a
history. The layout is followed from the inside out, as it is when it is read back: a list of
written items (`unfinished_layList`), the members of a record (`readMembersWithin_cutOff`), a record
(`unfinished_layRecord`), and the whole text (`parse_cutOff`). A file is cut between two octets, so
what is left need not be a text at all; `openAt_cutOff` says what opening it gives in either case.
-/

namespace HistoryExpansion

namespace HistoryFormat

open Json

/-! ## Lists -/

/-- **A list laid out over several lines** that is cut off has ended. -/
theorem unfinished_layList {α : Type} {item : Reader α} {write : α → List Char} {values : List α}
    (hreads : ∀ value ∈ values, Reads item (write value) value)
    (hcut : ∀ value ∈ values, Unfinished item (write value)) (indent : Nat) :
    Unfinished (readList item) (layList indent (values.map write)) := by
  have hspace : ∀ n, ∀ c ∈ newline n, isSpace c = true := fun _ _ => isSpace_of_mem_newline
  intro part h
  cases values with
  | nil =>
    rcases cutOff_cons_iff.1 h with rfl | ⟨tail, rfl, htail⟩
    · rfl
    · rw [cutOff_singleton_iff.1 htail]
      rfl
  | cons first values =>
    have hitems (fuel : Nat) (part : List Char) (hpart : CutOff part
        ((',' :: newline (indent + 2)).intercalate ((first :: values).map write) ++
          (newline indent ++ [']']))) :=
      readItemsWithin_cutOff (hspace (indent + 2)) (hspace indent) fuel hreads hcut hpart
    obtain ⟨c, written, hstarts, hc, hne⟩ :=
      ((hreads first List.mem_cons_self).starts.intercalate
        (',' :: newline (indent + 2)) (values.map write)).append (newline indent ++ [']'])
    rw [List.map_cons, hstarts] at hitems
    rw [List.map_cons, layList, List.append_assoc, List.append_assoc, hstarts] at h
    · rcases cutOff_cons_iff.1 h with rfl | ⟨tail, rfl, htail⟩
      · rfl
      · unfold readList
        rw [skipSpace_cons (by decide)]
        rcases skipSpace_cutOff_append (hspace _) hc htail with hnil | ⟨next, hnext, hcutoff⟩
        · simp only [hnil]
        · simp only [hnext]
          split
          · next heq => exact absurd heq (List.cons_ne_nil _ _)
          · next heq => exact absurd (List.cons.inj heq).1 hne
          · exact hitems _ _ hcutoff
    · exact List.cons_ne_nil _ _

/-! ## Records -/

/-- A space in front does not matter to a reader that passes over it. -/
theorem unfinished_cons_space {α : Type} {item : Reader α} {c : Char} {written : List Char}
    (hitem : ∀ text, item (' ' :: text) = item text) (h : Unfinished item (c :: written)) :
    Unfinished item (' ' :: c :: written) := by
  intro part hpart
  rcases cutOff_cons_iff.1 hpart with rfl | ⟨tail, rfl, htail⟩
  · exact h [] (cutOff_cons_iff.2 (.inl rfl))
  · rw [hitem]
    exact h tail htail

/-- Behind the key `session`, a colon and a literal that are cut off have ended. -/
theorem readMember_session_cutOff {parts : Parts} (h : parts.session = none) (session : String)
    {part : List Char} (hpart : CutOff part (':' :: ' ' :: quote session.toList)) :
    readMember "session" parts part = .error .ended := by
  have hspace : ∀ c ∈ [' '], isSpace c = true := List.forall_mem_singleton.2 rfl
  have hcut := unfinished_cons_space (readString_append hspace) (unfinished_quote session)
  have hkey : ¬("session" = "commands") := by decide
  simp only [readMember, h, hkey, Option.isSome_none, Bool.false_eq_true, false_and, and_false,
    ↓reduceIte]
  rcases cutOff_cons_iff.1 hpart with rfl | ⟨tail, rfl, htail⟩
  · rfl
  · simp only [skipSpace_cons (show isSpace ':' = false by decide), hcut tail htail, Except.map]

/-- Behind the key `commands`, a colon and a list that are cut off have ended. -/
theorem readMember_commands_cutOff {parts : Parts} (h : parts.commands = none)
    (commands : List String) {part : List Char}
    (hpart : CutOff part
      (':' :: ' ' :: layList 4 (commands.map fun command => quote command.toList))) :
    readMember "commands" parts part = .error .ended := by
  have hspace : ∀ c ∈ [' '], isSpace c = true := List.forall_mem_singleton.2 rfl
  have hcut : Unfinished (readList readString)
      (' ' :: layList 4 (commands.map fun command => quote command.toList)) := by
    have hreads : ∀ command ∈ commands, Reads readString (quote command.toList) command :=
      fun command _ => reads_quote command
    have hlist := unfinished_layList hreads (fun command _ => unfinished_quote command) 4
    obtain ⟨c, written, heq, -⟩ := (reads_layList hreads 4).starts
    rw [heq] at hlist ⊢
    exact unfinished_cons_space (readList_append hspace) hlist
  have hkey : ¬("commands" = "session") := by decide
  simp only [readMember, h, hkey, Option.isSome_none, Bool.false_eq_true, false_and, and_false,
    ↓reduceIte]
  rcases cutOff_cons_iff.1 hpart with rfl | ⟨tail, rfl, htail⟩
  · rfl
  · simp only [skipSpace_cons (show isSpace ':' = false by decide), hcut tail htail, Except.map]

/-- What follows a member is cut off: nothing is left behind the spaces, or a comma is left and what
follows it is cut off in turn. -/
def EndsBehind (fuel : Nat) (parts : Parts) (tail : List Char) : Prop :=
  skipSpace tail = [] ∨ ∃ next, skipSpace tail = ',' :: next ∧
    (skipSpace next = [] ∨ ∃ c more, skipSpace next = c :: more ∧
      readMembersWithin fuel parts (c :: more) = .error .ended)

/-- **Members that are cut off** have ended, be the cut in the first key, in its value or behind. -/
theorem readMembersWithin_cutOff {parts parts' : Parts} {key : String}
    {written behind : List Char} {fuel : Nat}
    (hread : ∀ rest, readMember key parts (written ++ rest) = .ok (parts', rest))
    (hcut : ∀ part, CutOff part written → readMember key parts part = .error .ended)
    (hbehind : ∀ tail, CutOff tail behind → EndsBehind fuel parts' tail) {c : Char}
    {part : List Char} (h : CutOff (c :: part) (quote key.toList ++ (written ++ behind))) :
    readMembersWithin (fuel + 1) parts (c :: part) = .error .ended := by
  rcases cutOff_append_iff.1 h with hkey | ⟨tail, htext, htail⟩
  · obtain ⟨tail, htext, htail⟩ := (cutOff_cons_iff.1 hkey).resolve_left (List.cons_ne_nil _ _)
    simp only [htext, readMembersWithin, readQuoted_cutOff htail]
  · have hquoted := readQuoted_flatMap_escape key.toList tail
    rw [htext]
    simp only [quote, List.cons_append, List.append_assoc, List.nil_append, readMembersWithin,
      hquoted, String.ofList_toList]
    rcases cutOff_append_iff.1 htail with hvalue | ⟨rest, rfl, hrest⟩
    · rw [hcut tail hvalue]
    · rw [hread]
      rcases hbehind rest hrest with hnil | ⟨next, hnext, hnil | ⟨c, more, hmore, hended⟩⟩
      · simp only [hnil]
      · simp only [hnext, hnil]
      · simp only [hnext, hmore, hended]

/-- **A record laid out over several lines** that is cut off has ended. -/
theorem unfinished_layRecord (record : Record) : Unfinished readRecord (layRecord record) := by
  have hspace : ∀ n, ∀ c ∈ newline n, isSpace c = true := fun _ _ => isSpace_of_mem_newline
  let commands := quote "commands".toList ++
    ((':' :: ' ' :: layList 4 (record.commands.map fun command => quote command.toList)) ++
      (newline 2 ++ ['\x7d']))
  let members := quote "session".toList ++
    ((':' :: ' ' :: quote record.session.toList) ++ ',' :: (newline 4 ++ commands))
  have hwritten : layRecord record = '\x7b' :: (newline 4 ++ members) := by
    simp only [layRecord, sessionKey, commandsKey, members, commands, List.append_assoc,
      List.cons_append, List.nil_append]
  have hcommands (fuel : Nat) {c : Char} {part : List Char} (h : CutOff (c :: part) commands) :
      readMembersWithin fuel ⟨some record.session, none⟩ (c :: part) = .error .ended := by
    cases fuel with
    | zero => rfl
    | succ fuel =>
      exact readMembersWithin_cutOff (readMember_commands rfl record.commands)
        (fun _ => readMember_commands_cutOff rfl record.commands)
        (fun tail htail => .inl (skipSpace_cutOff (hspace 2) htail)) h
  have hmembers (fuel : Nat) {c : Char} {part : List Char} (h : CutOff (c :: part) members) :
      readMembersWithin fuel {} (c :: part) = .error .ended := by
    cases fuel with
    | zero => rfl
    | succ fuel =>
      refine readMembersWithin_cutOff (readMember_session rfl record.session)
        (fun _ => readMember_session_cutOff rfl record.session) (fun tail htail => ?_) h
      rcases cutOff_cons_iff.1 htail with rfl | ⟨next, rfl, hnext⟩
      · exact .inl rfl
      · refine .inr ⟨next, skipSpace_cons (by decide) next, ?_⟩
        rcases skipSpace_cutOff_append (hspace 4) (by decide) hnext with hnil | ⟨more, hmore, hcut⟩
        · exact .inl hnil
        · exact .inr ⟨_, more, hmore, hcommands fuel hcut⟩
  intro part h
  rw [hwritten] at h
  rcases cutOff_cons_iff.1 h with rfl | ⟨tail, rfl, htail⟩
  · rfl
  · unfold readRecord
    rw [skipSpace_cons (by decide)]
    show readObject tail = .error .ended
    unfold readObject
    rcases skipSpace_cutOff_append (hspace 4) (by decide) htail with hnil | ⟨more, hmore, hcut⟩
    · rw [hnil]
    · rw [hmore]
      exact hmembers _ hcut

/-! ## Whole files -/

/-- **The text of a history file** that is cut off has ended. -/
theorem parse_cutOff {records : List Record} {part : List Char} (h : CutOff part (render records)) :
    parse part = .error .ended := by
  have hended : readList readRecord part = .error .ended :=
    unfinished_layList (fun record _ => reads_layRecord record)
      (fun record _ => unfinished_layRecord record) 0 part h
  rw [parse, hended]

end HistoryFormat

namespace HistoryFile

/-- Octets that are no text hold no records. -/
theorem recordsOf_of_text?_eq_none {octets : Octets} (h : Utf8.text? octets = none) :
    recordsOf octets = .error .notUtf8 := by
  unfold Utf8.text? at h
  unfold recordsOf Octets.text
  cases hdecode : Utf8.decode octets with
  | error fault => rfl
  | ok text =>
    rw [hdecode] at h
    cases h

/-- **A history file that is cut off is never accepted.** Let a file hold the octets of an archive
up to anywhere before their end. Opening it fails, under every window: with a JSON text that has
ended if what is left is a text, and as a file that is no text if the cut is inside of a character;
and it is one of the two. -/
theorem openAt_cutOff (archive : Archive) {disk : Disk} {path : String} {octets : Octets}
    (hcut : CutOff octets (content archive)) (hread : disk.read path = .ok octets) (window : Nat) :
    ((∃ text, octets = Utf8.encode text) →
      openAt disk path window = .error (.json .ended)) ∧
    (Utf8.EndsInside octets (HistoryFormat.render archive.records) →
      openAt disk path window = .error .notUtf8) ∧
    ((∃ text, octets = Utf8.encode text) ∨
      Utf8.EndsInside octets (HistoryFormat.render archive.records)) := by
  refine ⟨?_, fun hinside => ?_, ?_⟩
  · rintro ⟨text, rfl⟩
    refine openAt_of_recordsOf hread ?_ window
    rcases Utf8.cutOff_encode hcut with ⟨part, hpart, heq⟩ | hinside
    · rw [heq, recordsOf_encode, HistoryFormat.parse_cutOff hpart]
      rfl
    · have hnone := hinside.text?_eq_none
      rw [Utf8.text?_encode] at hnone
      cases hnone
  · exact openAt_of_recordsOf hread (recordsOf_of_text?_eq_none hinside.text?_eq_none) window
  · refine (Utf8.cutOff_encode hcut).imp_left ?_
    rintro ⟨part, -, rfl⟩
    exact ⟨part, rfl⟩

/-- A cut inside of the session's only character, and one inside of a command's escape. -/
theorem openAt_cutOff_character :
    let archive := (Archive.empty 2).push "é" "\x01"
    let disk (length : Nat) : Disk :=
      { entries := [(["h"], .file ((content archive).take length))] }
    CutOff ((content archive).take 23) (content archive) ∧
      (disk 23).read "h" = .ok ((content archive).take 23) ∧
      openAt (disk 23) "h" 1 = .error .notUtf8 ∧
      CutOff ((content archive).take 57) (content archive) ∧
      (disk 57).read "h" = .ok ((content archive).take 57) ∧
      openAt (disk 57) "h" 1 = .error (.json .ended) := by
  intro archive disk
  have hinner : CutOff ((content archive).take 23) (content archive) :=
    ⟨List.take_prefix _ _, by decide +kernel⟩
  have houter : CutOff ((content archive).take 57) (content archive) :=
    ⟨List.take_prefix _ _, by decide +kernel⟩
  have hread (length : Nat) : (disk length).read "h" = .ok ((content archive).take length) := by rfl
  have hinside : Utf8.EndsInside ((content archive).take 23)
      (HistoryFormat.render archive.records) := by
    refine ⟨(HistoryFormat.render archive.records).take 22, 'é',
      (HistoryFormat.render archive.records).drop 23, [0xC3], ?_, ?_, List.cons_ne_nil _ _,
      ⟨[0xA9], ?_⟩, ?_⟩
    · decide +kernel
    · decide +kernel
    · decide +kernel
    · decide +kernel
  have htext : (content archive).take 57 =
      Utf8.encode ((HistoryFormat.render archive.records).take 56) := by decide +kernel
  refine ⟨hinner, hread 23, ?_, houter, hread 57, ?_⟩
  · exact (openAt_cutOff archive hinner (hread 23) 1).2.1 hinside
  · exact (openAt_cutOff archive houter (hread 57) 1).1 ⟨_, htext⟩

end HistoryFile

end HistoryExpansion
