import Mathlib.Data.List.ReduceOption
import Mathlib.Data.List.TakeWhile
import HistoryExpansion.Proofs.Text.Blank
import HistoryExpansion.Proofs.Text.Utf8Append
import HistoryExpansion.Repl

/-!
# What the lines of an input ask for

The *entry* of a piece of the input is its text without the blanks around it, if it is UTF-8 at all.
What a line asks of the loop is read off the entry of the piece between two line feeds, so a
carriage return in front of a line feed is but one more blank (`agrees_ofLine`). The texts that the
loop handles are the entries that are not empty, up to the first one that ends the loop (`handled`).
They depend on the entries that are not empty alone (`handledOf_asked`, `stop?_asked`), and those
stay the same when blanks are put around a line or a blank line is put in: `asked_pad` and
`asked_encode`. What lies between is `agree_lines`: the lines of an input ask for what its entries
ask for.
-/

namespace HistoryExpansion.Repl

/-! ## Pieces -/

/-- An input is a piece without a line feed, or such a piece, a line feed and another input. -/
theorem byLines {motive : Octets → Prop} (last : ∀ piece, lineFeed ∉ piece → motive piece)
    (more : ∀ piece rest, lineFeed ∉ piece → motive rest → motive (piece ++ lineFeed :: rest))
    (input : Octets) : motive input := by
  induction hlength : input.length using Nat.strongRecOn generalizing input with
  | ind length ih =>
    by_cases h : lineFeed ∈ input
    · obtain ⟨piece, rest, rfl, hpiece⟩ := List.eq_append_cons_of_mem h
      have hshorter : rest.length < length := by
        rw [← hlength, List.length_append, List.length_cons]
        omega
      exact more piece rest hpiece (ih rest.length hshorter rest rfl)
    · exact last input h

theorem lines_of_not_mem {piece : Octets} (h : lineFeed ∉ piece) :
    lines piece = if piece = [] then [] else [piece] := by
  induction piece with
  | nil => rfl
  | cons octet piece ih =>
    obtain ⟨hoctet, hpiece⟩ := List.ne_and_not_mem_of_not_mem_cons h
    rw [lines, if_neg (Ne.symm hoctet), ih hpiece, if_neg (List.cons_ne_nil _ _)]
    split
    · next hempty =>
      split at hempty
      · next hnil => rw [hnil]
      · cases hempty
    · next hsome =>
      split at hsome
      · cases hsome
      · obtain ⟨rfl, rfl⟩ := List.cons.inj hsome
        rfl

theorem lines_append {piece : Octets} (h : lineFeed ∉ piece) (rest : Octets) :
    lines (piece ++ lineFeed :: rest) = (piece ++ [lineFeed]) :: lines rest := by
  induction piece with
  | nil => exact if_pos rfl
  | cons octet piece ih =>
    obtain ⟨hoctet, hpiece⟩ := List.ne_and_not_mem_of_not_mem_cons h
    rw [List.cons_append, lines, if_neg (Ne.symm hoctet), ih hpiece]
    rfl

/-! ## Entries -/

/-- The text of a piece without the blanks around it, if the piece is UTF-8. -/
def entryOf? (piece : Octets) : Option String :=
  (Utf8.text? piece).map fun text => Text.trim (String.ofList text)

/-- The entries of the pieces between the line feeds. -/
def entries (input : Octets) : List (Option String) :=
  (input.splitOn lineFeed).map entryOf?

theorem entries_of_not_mem {piece : Octets} (h : lineFeed ∉ piece) :
    entries piece = [entryOf? piece] := by
  rw [entries, List.splitOn_eq_singleton h, List.map_singleton]

/-- A line feed parts the entries. -/
theorem entries_append (front back : Octets) :
    entries (front ++ lineFeed :: back) = entries front ++ entries back := by
  rw [entries, List.splitOn_append_cons_self, List.map_append]
  rfl

theorem trim_ofList_append {lead trail : List Char} (hlead : ∀ c ∈ lead, Text.isBlank c = true)
    (htrail : ∀ c ∈ trail, Text.isBlank c = true) (text : List Char) :
    Text.trim (String.ofList (lead ++ text ++ trail)) = Text.trim (String.ofList text) := by
  simp only [Text.trim, String.toList_ofList, Text.trimmed_append hlead htrail]

/-- Blanks around a piece do not count, whether the piece is UTF-8 or not. -/
theorem entryOf?_pad {lead trail : List Char} (hlead : ∀ c ∈ lead, Text.isBlank c = true)
    (htrail : ∀ c ∈ trail, Text.isBlank c = true) (piece : Octets) :
    entryOf? (Utf8.encode lead ++ piece ++ Utf8.encode trail) = entryOf? piece := by
  rw [entryOf?, Utf8.text?_append_encode, Utf8.text?_encode_append, entryOf?, Option.map_map,
    Option.map_map]
  exact congrArg (Option.map · _) (funext (trim_ofList_append hlead htrail))

/-! ## Requests -/

/-- What an entry asks of the loop. -/
def Request.ofEntry (entry : String) : Request :=
  if entry = "" then nothing
  else if leaveWords.contains entry then leave
  else handle entry

/-- A request is what an entry asks for. -/
def Request.Agrees (request : Request) : Option String → Prop
  | none => ∃ failure, request = .unreadable failure
  | some entry => request = .ofEntry entry

theorem withoutEnd_of_not_mem {piece : Octets} (h : lineFeed ∉ piece) :
    withoutEnd piece = piece := by
  rcases List.eq_nil_or_concat' piece with rfl | ⟨front, octet, rfl⟩
  · rfl
  · have hoctet : octet ≠ lineFeed := fun heq => h (heq ▸ List.mem_concat_self)
    rw [withoutEnd, List.reverse_append, List.reverse_singleton, List.singleton_append]
    cases front.reverse <;> exact if_neg hoctet

theorem withoutEnd_append (piece : Octets) :
    withoutEnd (piece ++ [lineFeed]) = piece ∨
      ∃ front, piece = front ++ [carriageReturn] ∧ withoutEnd (piece ++ [lineFeed]) = front := by
  rw [withoutEnd, List.reverse_append, List.reverse_singleton, List.singleton_append]
  rcases List.eq_nil_or_concat' piece with rfl | ⟨front, octet, rfl⟩
  · exact .inl rfl
  · rw [List.reverse_append, List.reverse_singleton, List.singleton_append]
    by_cases h : octet = carriageReturn
    · exact .inr ⟨front, by rw [h], by simp only [if_pos, h, List.reverse_reverse]⟩
    · refine .inl ?_
      simp only [if_pos, if_neg h, List.reverse_cons, List.reverse_reverse]

/-- The end of a line has no part in the entry. -/
theorem entryOf?_withoutEnd (piece : Octets) :
    entryOf? (withoutEnd (piece ++ [lineFeed])) = entryOf? piece := by
  rcases withoutEnd_append piece with h | ⟨front, rfl, h⟩
  · rw [h]
  · have hreturn : ∀ c ∈ ['\r'], Text.isBlank c = true := List.forall_mem_singleton.2 rfl
    rw [h]
    exact (entryOf?_pad (List.forall_mem_nil _) hreturn front).symm

theorem agrees_ofLine (line : Octets) :
    (Request.ofLine line).Agrees (entryOf? (withoutEnd line)) := by
  unfold Request.ofLine entryOf? Utf8.text?
  cases Utf8.decode (withoutEnd line) with
  | error fault => exact ⟨_, rfl⟩
  | ok text => exact rfl

/-! ## Handled texts -/

/-- Whether the loop goes on behind an entry. -/
def goesOn : Option String → Bool
  | none => false
  | some entry => !leaveWords.contains entry

/-- The texts that are handled among entries: those that are not empty and stand before the first
one that ends the loop. -/
def handledOf (entries : List (Option String)) : List String :=
  (entries.takeWhile goesOn).reduceOption.filter (· ≠ "")

/-- The entry that ends the loop, if there is one. -/
def stop? (entries : List (Option String)) : Option (Option String) :=
  entries.find? fun entry => !goesOn entry

/-- The texts that the loop handles of an input. -/
def handled (input : Octets) : List String :=
  handledOf (entries input)

/-- The entries that ask for something. -/
def asked (input : Octets) : List (Option String) :=
  (entries input).filter (· ≠ some "")

theorem handledOf_cons_of_goesOn {entry : String} (h : goesOn (some entry) = true)
    (entries : List (Option String)) :
    handledOf (some entry :: entries) =
      if entry = "" then handledOf entries else entry :: handledOf entries := by
  rw [handledOf, List.takeWhile_cons_of_pos h, List.reduceOption_cons_of_some, List.filter_cons]
  split
  · next hne => rw [if_neg (of_decide_eq_true hne)]; rfl
  · next hnot => rw [if_pos (by simpa using hnot)]; rfl

theorem handledOf_cons_of_not_goesOn {entry : Option String} (h : goesOn entry = false)
    (entries : List (Option String)) : handledOf (entry :: entries) = [] := by
  rw [handledOf, List.takeWhile_cons_of_neg (by rw [h]; exact Bool.false_ne_true)]
  rfl

/-- Empty entries have no part in what is handled. -/
theorem handledOf_asked (entries : List (Option String)) :
    handledOf (entries.filter (· ≠ some "")) = handledOf entries := by
  induction entries with
  | nil => rfl
  | cons entry entries ih =>
    rw [List.filter_cons]
    split
    · cases hgoes : goesOn entry with
      | false => rw [handledOf_cons_of_not_goesOn hgoes, handledOf_cons_of_not_goesOn hgoes]
      | true =>
        cases entry with
        | none => cases hgoes
        | some entry => rw [handledOf_cons_of_goesOn hgoes, handledOf_cons_of_goesOn hgoes, ih]
    · next hempty =>
      obtain rfl : entry = some "" := by simpa using hempty
      rw [handledOf_cons_of_goesOn rfl, if_pos rfl, ih]

/-- Empty entries do not end the loop. -/
theorem stop?_asked (entries : List (Option String)) :
    stop? (entries.filter (· ≠ some "")) = stop? entries := by
  rw [stop?, List.find?_filter, stop?]
  refine congrArg (List.find? · entries) (funext fun entry => ?_)
  by_cases h : entry = some ""
  · rw [h]; rfl
  · simp only [ne_eq, h, not_false_eq_true, decide_true, true_and, Bool.decide_eq_true]

/-! ## Lines and entries -/

/-- The texts that lines ask to handle, up to the line that ends the loop. -/
def textsOf : List Octets → List String
  | [] => []
  | line :: rest =>
    match Request.ofLine line with
    | .nothing => textsOf rest
    | .leave => []
    | .unreadable _ => []
    | .handle text => text :: textsOf rest

/-- The failure to read the line that ends the loop, if it cannot be read. -/
def failureOf? : List Octets → Option Failure
  | [] => none
  | line :: rest =>
    match Request.ofLine line with
    | .nothing => failureOf? rest
    | .leave => none
    | .unreadable failure => some failure
    | .handle _ => failureOf? rest

/-- Lines ask for the same texts as entries, and end the loop as the entries do. -/
structure LinesAgree (lines : List Octets) (entries : List (Option String)) : Prop where
  texts : textsOf lines = handledOf entries
  failure : (failureOf? lines).isSome = true ↔ stop? entries = some none

/-- A line agrees with its entry. -/
theorem LinesAgree.cons {line : Octets} {entry : Option String}
    (hline : (Request.ofLine line).Agrees entry) {lines : List Octets}
    {entries : List (Option String)} (h : LinesAgree lines entries) :
    LinesAgree (line :: lines) (entry :: entries) := by
  cases entry with
  | none =>
    obtain ⟨failure, hrequest⟩ := hline
    constructor
    · rw [textsOf, hrequest, handledOf_cons_of_not_goesOn rfl]
    · rw [failureOf?, hrequest]
      exact ⟨fun _ => rfl, fun _ => rfl⟩
  | some entry =>
    have hrequest : Request.ofLine line = .ofEntry entry := hline
    rw [Request.ofEntry] at hrequest
    by_cases hempty : entry = ""
    · rw [if_pos hempty] at hrequest
      subst hempty
      constructor
      · rw [textsOf, hrequest, handledOf_cons_of_goesOn rfl, if_pos rfl]
        exact h.texts
      · rw [failureOf?, hrequest]
        exact h.failure
    · rw [if_neg hempty] at hrequest
      cases hleave : leaveWords.contains entry with
      | true =>
        have hstops : goesOn (some entry) = false := by rw [goesOn, hleave]; rfl
        rw [if_pos hleave] at hrequest
        constructor
        · rw [textsOf, hrequest, handledOf_cons_of_not_goesOn hstops]
        · rw [failureOf?, hrequest, stop?, List.find?_cons_of_pos (by rw [hstops]; rfl)]
          exact ⟨nofun, nofun⟩
      | false =>
        have hgoes : goesOn (some entry) = true := by rw [goesOn, hleave]; rfl
        rw [hleave, if_neg Bool.false_ne_true] at hrequest
        constructor
        · rw [textsOf, hrequest, handledOf_cons_of_goesOn hgoes, if_neg hempty, ← h.texts]
        · rw [failureOf?, hrequest, stop?,
            List.find?_cons_of_neg (by rw [hgoes]; exact Bool.false_ne_true)]
          exact h.failure

/-- **The lines of an input** agree with its entries. -/
theorem agree_lines (input : Octets) : LinesAgree (lines input) (entries input) := by
  induction input using byLines with
  | last piece hpiece =>
    rw [lines_of_not_mem hpiece, entries_of_not_mem hpiece]
    split
    · next hnil =>
      rw [hnil]
      exact ⟨rfl, nofun, nofun⟩
    · have hline := agrees_ofLine piece
      rw [withoutEnd_of_not_mem hpiece] at hline
      exact LinesAgree.cons hline ⟨rfl, nofun, nofun⟩
  | more piece rest hpiece ih =>
    have hline := agrees_ofLine (piece ++ [lineFeed])
    rw [entryOf?_withoutEnd] at hline
    rw [lines_append hpiece, entries_append, entries_of_not_mem hpiece, List.singleton_append]
    exact ih.cons hline

/-- A text that lines ask to handle is asked for by one of them. -/
theorem exists_of_mem_textsOf {lines : List Octets} {text : String} (h : text ∈ textsOf lines) :
    ∃ line ∈ lines, Request.ofLine line = .handle text := by
  induction lines with
  | nil => exact absurd h List.not_mem_nil
  | cons line lines ih =>
    have hrest : text ∈ textsOf lines →
        ∃ other ∈ line :: lines, Request.ofLine other = .handle text :=
      fun hmem => (ih hmem).imp fun _ hother => hother.imp_left (List.mem_cons_of_mem line)
    rw [textsOf] at h
    split at h
    · exact hrest h
    · exact absurd h List.not_mem_nil
    · exact absurd h List.not_mem_nil
    · next hrequest =>
      rcases List.mem_cons.1 h with rfl | hmem
      · exact ⟨line, List.mem_cons_self, hrequest⟩
      · exact hrest hmem

/-- The first lines ask for the first texts. -/
theorem textsOf_prefix {front lines : List Octets} (h : front <+: lines) :
    textsOf front <+: textsOf lines := by
  obtain ⟨back, rfl⟩ := h
  induction front with
  | nil => exact List.nil_prefix
  | cons line front ih =>
    rw [List.cons_append, textsOf, textsOf]
    split
    · exact ih
    · exact List.prefix_rfl
    · exact List.prefix_rfl
    · exact List.cons_prefix_cons.2 ⟨rfl, ih⟩

/-! ## Other inputs that ask for the same -/

/-- Behind an entry that ends the loop nothing counts. -/
theorem handledOf_append {front : List (Option String)} (h : ∃ entry ∈ front, goesOn entry = false)
    (back : List (Option String)) : handledOf (front ++ back) = handledOf front := by
  obtain ⟨entry, hentry, hstops⟩ := h
  have hlength : (front.takeWhile goesOn).length ≠ front.length := by
    intro heq
    have hall := List.takeWhile_eq_self_iff.1 ((List.takeWhile_prefix goesOn).eq_of_length heq)
    exact Bool.noConfusion (hstops.symm.trans (hall entry hentry))
  rw [handledOf, List.takeWhile_append, if_neg hlength]
  rfl

theorem stop?_append {front : List (Option String)} (h : ∃ entry ∈ front, goesOn entry = false)
    (back : List (Option String)) : stop? (front ++ back) = stop? front := by
  obtain ⟨entry, hentry, hstops⟩ := h
  have hfound : (stop? front).isSome = true :=
    List.find?_isSome.2 ⟨entry, hentry, by rw [hstops]; rfl⟩
  rw [stop?, List.find?_append]
  exact Option.or_of_isSome hfound

theorem lineFeed_not_mem_encodeChar {c : Char} (h : c ≠ '\n') :
    lineFeed ∉ Utf8.encodeChar c := by
  have hvalid : c.toNat < 0xD800 ∨ (0xDFFF < c.toNat ∧ c.toNat < 0x110000) := c.valid
  have hcode : c.toNat ≠ 0x0A := fun heq => h (Char.toNat_inj.1 heq)
  have hoctet : ∀ {m : Nat}, m < 0x100 → m ≠ 0x0A → lineFeed ≠ m.toUInt8 := by
    intro m hm hne heq
    exact hne ((Utf8.toNat_octet hm).symm.trans (congrArg UInt8.toNat heq.symm))
  unfold Utf8.encodeChar
  generalize c.toNat = n at hvalid hcode
  simp only
  split
  · simp only [List.mem_singleton]
    exact hoctet (by omega) hcode
  · split
    · simp only [List.mem_cons, List.not_mem_nil, or_false, not_or]
      exact ⟨hoctet (by omega) (by omega), hoctet (by omega) (by omega)⟩
    · split
      · simp only [List.mem_cons, List.not_mem_nil, or_false, not_or]
        exact ⟨hoctet (by omega) (by omega), hoctet (by omega) (by omega),
          hoctet (by omega) (by omega)⟩
      · simp only [List.mem_cons, List.not_mem_nil, or_false, not_or]
        exact ⟨hoctet (by omega) (by omega), hoctet (by omega) (by omega),
          hoctet (by omega) (by omega), hoctet (by omega) (by omega)⟩

/-- A blank in front of an input does not count. -/
theorem asked_encodeChar_append {c : Char} (h : Text.isBlank c = true) (octets : Octets) :
    asked (Utf8.encodeChar c ++ octets) = asked octets := by
  by_cases hfeed : c = '\n'
  · subst hfeed
    show asked ([] ++ lineFeed :: octets) = asked octets
    rw [asked, entries_append]
    rfl
  · have hentry : ∀ piece, entryOf? (Utf8.encodeChar c ++ piece) = entryOf? piece := by
      intro piece
      have hpad := entryOf?_pad (List.forall_mem_singleton.2 h) (List.forall_mem_nil _) piece
      simpa [Utf8.encode] using hpad
    have hnot := lineFeed_not_mem_encodeChar hfeed
    have hfree : ∀ {piece}, lineFeed ∉ piece → lineFeed ∉ Utf8.encodeChar c ++ piece :=
      fun hpiece => List.not_mem_append hnot hpiece
    suffices entries (Utf8.encodeChar c ++ octets) = entries octets by rw [asked, this, asked]
    induction octets using byLines with
    | last piece hpiece =>
      rw [entries_of_not_mem (hfree hpiece), hentry, entries_of_not_mem hpiece]
    | more piece rest hpiece _ =>
      rw [← List.append_assoc, entries_append, entries_append, entries_of_not_mem (hfree hpiece),
        hentry, entries_of_not_mem hpiece]

theorem asked_append_encodeChar {c : Char} (h : Text.isBlank c = true) (octets : Octets) :
    asked (octets ++ Utf8.encodeChar c) = asked octets := by
  by_cases hfeed : c = '\n'
  · subst hfeed
    show asked (octets ++ lineFeed :: []) = asked octets
    rw [asked, entries_append, List.filter_append]
    exact List.append_nil _
  · have hentry : ∀ piece, entryOf? (piece ++ Utf8.encodeChar c) = entryOf? piece := by
      intro piece
      have hpad := entryOf?_pad (List.forall_mem_nil _) (List.forall_mem_singleton.2 h) piece
      simpa [Utf8.encode] using hpad
    have hnot := lineFeed_not_mem_encodeChar hfeed
    suffices entries (octets ++ Utf8.encodeChar c) = entries octets by rw [asked, this, asked]
    induction octets using byLines with
    | last piece hpiece =>
      rw [entries_of_not_mem (List.not_mem_append hpiece hnot), hentry,
        entries_of_not_mem hpiece]
    | more piece rest hpiece ih =>
      rw [List.append_assoc, List.cons_append, entries_append, entries_append, ih]

/-- **Blanks around an input**, line feeds among them, do not count. -/
theorem asked_pad {lead trail : List Char} (hlead : ∀ c ∈ lead, Text.isBlank c = true)
    (htrail : ∀ c ∈ trail, Text.isBlank c = true) (octets : Octets) :
    asked (Utf8.encode lead ++ octets ++ Utf8.encode trail) = asked octets := by
  have hbehind : ∀ front, asked (front ++ Utf8.encode trail) = asked front := by
    intro front
    induction trail generalizing front with
    | nil => rw [Utf8.encode, List.flatMap_nil, List.append_nil]
    | cons c trail ih =>
      obtain ⟨hc, htrail⟩ := List.forall_mem_cons.1 htrail
      rw [Utf8.encode, List.flatMap_cons, ← List.append_assoc]
      exact (ih htrail _).trans (asked_append_encodeChar hc front)
  rw [hbehind]
  induction lead with
  | nil => rfl
  | cons c lead ih =>
    obtain ⟨hc, hlead⟩ := List.forall_mem_cons.1 hlead
    rw [Utf8.encode, List.flatMap_cons, List.append_assoc]
    exact (asked_encodeChar_append hc _).trans (ih hlead)

/-- Nothing is asked for by blanks alone. -/
theorem asked_encode {blanks : List Char} (h : ∀ c ∈ blanks, Text.isBlank c = true) :
    asked (Utf8.encode blanks) = [] := by
  have hpad := asked_pad h (List.forall_mem_nil _) []
  rwa [List.append_nil, show Utf8.encode [] = [] from rfl, List.append_nil] at hpad

/-- Pieces with a line feed between any two of them. -/
def joined (pieces : List Octets) : Octets :=
  [lineFeed].intercalate pieces

theorem asked_joined (pieces : List Octets) : asked (joined pieces) = pieces.flatMap asked := by
  induction pieces with
  | nil => rfl
  | cons piece pieces ih =>
    cases pieces with
    | nil => rw [joined, List.intercalate_singleton, List.flatMap_singleton]
    | cons next pieces =>
      rw [joined, List.intercalate_cons_cons, List.append_assoc, List.flatMap_cons, ← ih, asked,
        List.singleton_append, entries_append, List.filter_append]
      rfl

end HistoryExpansion.Repl
