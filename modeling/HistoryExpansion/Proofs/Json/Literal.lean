import HistoryExpansion.Proofs.Json.Grammar

/-!
# Literals are read by the grammar

Passing over a literal takes exactly what the grammar calls one (`skipQuoted_eq_ok_iff`), and
reading it takes exactly those whose units are the units of a text, and gives that text
(`readQuoted_eq_ok_iff`). A text is read off its units from the front (`charUnits_append_inj`), but
a character beyond the first plane has two units, so that it may be spelled in two pieces
(`SpellsAll.character`).
-/

namespace HistoryExpansion.Json

/-! ## Escapes -/

theorem toNat_lt_of_hexValue? {c : Char} {value : Nat} (h : hexValue? c = some value) :
    c.toNat < 0x80 := by
  have hbound {bound : Char} (hlast : bound.toNat < 0x80) (hle : c ≤ bound) : c.toNat < 0x80 :=
    Nat.lt_of_le_of_lt (UInt32.le_iff_toNat_le.1 (Char.le_def.1 hle)) hlast
  unfold hexValue? at h
  split at h
  · next hrange => exact hbound (by decide) hrange.2
  split at h
  · next hrange => exact hbound (by decide) hrange.2
  split at h
  · next hrange => exact hbound (by decide) hrange.2
  · cases h

theorem hexValue?_eq_some_iff {c : Char} {value : Nat} :
    hexValue? c = some value ↔ HexDigit c value := by
  constructor
  · have hascii : ∀ code < 0x80, ∀ value ∈ hexValue? (Char.ofNat code),
        HexDigit (Char.ofNat code) value := by
      simp only [HexDigit]
      decide +kernel
    intro h
    have hdigit := hascii c.toNat (toNat_lt_of_hexValue? h) value
    rw [Char.ofNat_toNat] at hdigit
    exact hdigit h
  · have hlower : ∀ value < 16,
        "0123456789abcdef".toList[value]?.map hexValue? = some (some value) := by decide +kernel
    have hupper : ∀ value < 16,
        "0123456789ABCDEF".toList[value]?.map hexValue? = some (some value) := by decide +kernel
    rintro (h | h)
    · have hvalue := hlower value (List.getElem?_eq_some_iff.1 h).1
      rw [h] at hvalue
      exact Option.some.inj hvalue
    · have hvalue := hupper value (List.getElem?_eq_some_iff.1 h).1
      rw [h] at hvalue
      exact Option.some.inj hvalue

theorem HexDigit.lt {c : Char} {value : Nat} (h : HexDigit c value) : value < 16 :=
  h.elim (fun h => (List.getElem?_eq_some_iff.1 h).1) fun h => (List.getElem?_eq_some_iff.1 h).1

theorem hexUnit?_eq_some_iff {a b c d : Char} {unit : Nat} :
    hexUnit? a b c d = some unit ↔ ∃ p q r s, HexDigit a p ∧ HexDigit b q ∧ HexDigit c r ∧
      HexDigit d s ∧ unit = ((p * 16 + q) * 16 + r) * 16 + s := by
  simp only [hexUnit?, Option.bind_eq_bind, Option.bind_eq_some_iff, hexValue?_eq_some_iff, pure,
    Option.some.injEq]
  grind

theorem escaped?_eq_some_iff {letter c : Char} :
    escaped? letter = some c ↔ (letter, c) ∈ escapes := by
  constructor
  · intro h
    unfold escaped? at h
    iterate 8
      split at h
      · next hletter =>
        cases h
        subst hletter
        decide
    cases h
  · have hall : ∀ pair ∈ escapes, escaped? pair.1 = some pair.2 := by decide
    exact hall (letter, c)

/-- The code of an escaped character is below the surrogates. -/
theorem toNat_lt_of_mem_escapes {letter c : Char} (h : (letter, c) ∈ escapes) :
    c.toNat < 0x80 ∧ letter ≠ 'u' := by
  have hall : ∀ pair ∈ escapes, pair.2.toNat < 0x80 ∧ pair.1 ≠ 'u' := by decide
  exact hall _ h

/-! ## Literals that are passed over -/

/-- One piece is passed over at a time. -/
theorem skipQuoted_spells {piece : List Char} {found : List Nat} (h : Spells piece found)
    (rest : List Char) : skipQuoted (piece ++ rest) = skipQuoted rest := by
  cases h with
  | @plain c hquote hslash hcontrol =>
    rw [List.singleton_append, skipQuoted, if_neg (Nat.not_lt.2 hcontrol)]
    · exact hquote
    · exact fun _ _ _ _ _ h _ => hslash h
    · exact fun _ h _ => hslash h
    · exact fun h _ => hslash h
    · exact fun _ _ h _ => hslash h
  | @letter letter c h =>
    have hletter := (toNat_lt_of_mem_escapes h).2
    rw [List.cons_append, List.singleton_append, skipQuoted, escaped?_eq_some_iff.2 h]
    · rfl
    · exact fun _ _ _ _ _ h _ => hletter h
    · exact hletter
  | @unit a b c d p q r s ha hb hc hd =>
    have hunit := hexUnit?_eq_some_iff.2 ⟨p, q, r, s, ha, hb, hc, hd, rfl⟩
    simp only [List.cons_append, List.nil_append, skipQuoted, hunit, Option.isSome_some, ↓reduceIte]

/-- What follows an opening quote closes the literal with a rest behind it. -/
def Closes (text rest : List Char) (found : List Nat) : Prop :=
  ∃ body, text = body ++ '"' :: rest ∧ SpellsAll body found

theorem Closes.cons {piece text rest : List Char} {first others : List Nat}
    (hpiece : Spells piece first) (h : Closes text rest others) :
    Closes (piece ++ text) rest (first ++ others) := by
  obtain ⟨body, rfl, hbody⟩ := h
  exact ⟨piece ++ body, (List.append_assoc ..).symm, .cons hpiece hbody⟩

theorem closes_iff_literal {text rest : List Char} {found : List Nat} :
    Closes text rest found ↔ ∃ written, '"' :: text = written ++ rest ∧ Literal written found := by
  constructor
  · rintro ⟨body, rfl, hbody⟩
    exact ⟨'"' :: (body ++ ['"']), by simp only [List.cons_append, List.append_assoc,
      List.nil_append], body, rfl, hbody⟩
  · rintro ⟨written, htext, body, rfl, hbody⟩
    refine ⟨body, ?_, hbody⟩
    simpa only [List.cons_append, List.append_assoc, List.nil_append, List.cons.injEq,
      true_and] using htext

/-- Only a character that is no backslash is left to the last pattern of a reader. -/
theorem ne_backslash_of_forall {c : Char} {rest : List Char} (hlone : c = '\\' → rest = [] → False)
    (hescape : ∀ d tail, c = '\\' → rest = d :: tail → False) : c ≠ '\\' := by
  intro hc
  cases rest with
  | nil => exact hlone hc rfl
  | cons d tail => exact hescape d tail hc rfl

/-- **Passing over a literal** takes what the grammar calls one, whatever its units are. -/
theorem skipQuoted_eq_ok_iff {text rest : List Char} :
    skipQuoted text = .ok rest ↔ ∃ found, Closes text rest found := by
  constructor
  · intro h
    fun_induction skipQuoted text with
    | case1 => cases h
    | case2 tail =>
      cases h
      exact ⟨[], [], rfl, .nil⟩
    | case3 a b c d tail hsome ih =>
      obtain ⟨unit, hunit⟩ := Option.isSome_iff_exists.1 hsome
      obtain ⟨p, q, r, s, ha, hb, hc, hd, rfl⟩ := hexUnit?_eq_some_iff.1 hunit
      obtain ⟨found, hfound⟩ := ih h
      exact ⟨_, hfound.cons (.unit ha hb hc hd)⟩
    | case4 => cases h
    | case5 => cases h
    | case6 => cases h
    | case7 letter tail _ _ hsome ih =>
      obtain ⟨c, hc⟩ := Option.isSome_iff_exists.1 hsome
      obtain ⟨found, hfound⟩ := ih h
      exact ⟨_, hfound.cons (.letter (escaped?_eq_some_iff.1 hc))⟩
    | case8 => cases h
    | case9 => cases h
    | case10 c tail hquote _ _ hlone hescape hcontrol ih =>
      obtain ⟨found, hfound⟩ := ih h
      have hplain : Spells [c] (charUnits c) :=
        .plain hquote (ne_backslash_of_forall hlone hescape) (Nat.not_lt.1 hcontrol)
      exact ⟨_, hfound.cons hplain⟩
  · rintro ⟨found, body, rfl, hbody⟩
    induction hbody with
    | nil => rfl
    | cons hpiece _ ih => rw [List.append_assoc, skipQuoted_spells hpiece, ih]

/-! ## Literals that are read -/

theorem toNat_valid (c : Char) : c.toNat < 0xD800 ∨ 0xDFFF < c.toNat ∧ c.toNat < 0x110000 :=
  c.valid

theorem toNat_ofNat {code : Nat} (h : code.isValidChar) : (Char.ofNat code).toNat = code := by
  rw [Char.ofNat, dif_pos h]
  rfl

theorem charUnits_ne_nil (c : Char) : charUnits c ≠ [] := by
  unfold charUnits
  split <;> exact List.cons_ne_nil _ _

/-- A text is read off its units from the front. -/
theorem charUnits_append_inj {c d : Char} {others others' : List Nat}
    (h : charUnits c ++ others = charUnits d ++ others') : c = d ∧ others = others' := by
  have hc := toNat_valid c
  have hd := toNat_valid d
  unfold charUnits at h
  split at h <;> split at h
  · simp only [List.cons_append, List.nil_append, List.cons.injEq] at h
    exact ⟨Char.toNat_inj.1 h.1, h.2⟩
  · simp only [List.cons_append, List.nil_append, List.cons.injEq] at h
    omega
  · simp only [List.cons_append, List.nil_append, List.cons.injEq] at h
    omega
  · simp only [List.cons_append, List.nil_append, List.cons.injEq] at h
    exact ⟨Char.toNat_inj.1 (by omega), h.2.2⟩

theorem charUnits_inj {c d : Char} (h : charUnits c = charUnits d) : c = d :=
  (charUnits_append_inj (congrArg (· ++ []) h)).1

/-- Texts with the same units are the same. -/
theorem units_inj {text other : List Char} : units text = units other ↔ text = other := by
  refine ⟨fun h => ?_, congrArg units⟩
  induction text generalizing other with
  | nil =>
    cases other with
    | nil => rfl
    | cons d other => exact absurd (List.append_eq_nil_iff.1 h.symm).1 (charUnits_ne_nil d)
  | cons c text ih =>
    cases other with
    | nil => exact absurd (List.append_eq_nil_iff.1 h).1 (charUnits_ne_nil c)
    | cons d other =>
      obtain ⟨rfl, hrest⟩ := charUnits_append_inj h
      rw [ih hrest]

/-- A unit that is no surrogate is a character's only one. -/
theorem charUnits_ofNat {unit : Nat} (hbound : unit < 0x10000)
    (hhigh : ¬isHighSurrogate unit = true) (hlow : ¬isLowSurrogate unit = true) :
    charUnits (Char.ofNat unit) = [unit] := by
  simp only [isHighSurrogate, isLowSurrogate, Bool.and_eq_true, decide_eq_true_eq] at hhigh hlow
  have hvalid : unit.isValidChar := by
    unfold Nat.isValidChar
    omega
  rw [charUnits, toNat_ofNat hvalid, if_pos hbound]

/-- A high and a low surrogate are the units of the character that they stand for. -/
theorem charUnits_pairChar {high low : Nat} (hhigh : isHighSurrogate high = true)
    (hlow : isLowSurrogate low = true) : charUnits (pairChar high low) = [high, low] := by
  simp only [isHighSurrogate, isLowSurrogate, Bool.and_eq_true, decide_eq_true_eq] at hhigh hlow
  have hvalid : ((high - 0xD800) * 0x400 + (low - 0xDC00) + 0x10000).isValidChar := by
    unfold Nat.isValidChar
    omega
  rw [charUnits, pairChar, toNat_ofNat hvalid, if_neg (by omega)]
  simp only [List.cons.injEq, and_true]
  omega

/-- Two units of one character are a high and a low surrogate. -/
theorem surrogates_of_charUnits {c : Char} {high low : Nat} (h : charUnits c = [high, low]) :
    isHighSurrogate high = true ∧ isLowSurrogate low = true := by
  have hc := toNat_valid c
  unfold charUnits at h
  split at h
  · cases h
  · simp only [List.cons.injEq, and_true] at h
    simp only [isHighSurrogate, isLowSurrogate, Bool.and_eq_true, decide_eq_true_eq]
    omega

/-- A character is no surrogate. -/
theorem not_surrogate (c : Char) :
    isHighSurrogate c.toNat = false ∧ isLowSurrogate c.toNat = false := by
  have hc := toNat_valid c
  simp only [Bool.eq_false_iff, isHighSurrogate, isLowSurrogate, ne_eq, Bool.and_eq_true,
    decide_eq_true_eq]
  omega

theorem charUnits_eq_singleton {c : Char} {unit : Nat} (h : charUnits c = [unit]) :
    unit = c.toNat := by
  unfold charUnits at h
  split at h <;> cases h
  rfl

/-- No character begins with a low surrogate. -/
theorem charUnits_ne_low {c : Char} {low : Nat} {others others' : List Nat}
    (hlow : isLowSurrogate low = true) : charUnits c ++ others ≠ low :: others' := by
  intro h
  have hc := toNat_valid c
  simp only [isLowSurrogate, Bool.and_eq_true, decide_eq_true_eq] at hlow
  unfold charUnits at h
  split at h
  all_goals
    simp only [List.cons_append, List.nil_append, List.cons.injEq] at h
    omega

theorem map_eq_ok_iff {ε α β : Type} {read : Except ε α} {f : α → β} {found : β} :
    read.map f = .ok found ↔ ∃ before, read = .ok before ∧ f before = found := by
  cases read with
  | error fault => simp only [Except.map, reduceCtorEq, false_and, exists_false]
  | ok before => simp only [Except.map, Except.ok.injEq, exists_eq_left']

theorem consChar_eq_ok_iff {c : Char} {read : Except JsonFault (List Char × List Char)}
    {found rest : List Char} :
    consChar c read = .ok (found, rest) ↔ ∃ tail, found = c :: tail ∧ read = .ok (tail, rest) := by
  unfold consChar
  rw [map_eq_ok_iff]
  constructor
  · rintro ⟨⟨tail, behind⟩, hread, heq⟩
    cases heq
    exact ⟨tail, rfl, hread⟩
  · rintro ⟨tail, rfl, hread⟩
    exact ⟨(tail, rest), hread, rfl⟩

/-- A piece stands for a character's units or for one unit that it names. -/
theorem Spells.character_or_unit {piece : List Char} {found : List Nat} (h : Spells piece found) :
    (∃ c, found = charUnits c) ∨ ∃ a b c d unit, piece = ['\\', 'u', a, b, c, d] ∧
      found = [unit] ∧ hexUnit? a b c d = some unit := by
  cases h with
  | plain => exact .inl ⟨_, rfl⟩
  | letter => exact .inl ⟨_, rfl⟩
  | @unit a b c d p q r s ha hb hc hd =>
    exact .inr ⟨a, b, c, d, _, rfl, rfl, hexUnit?_eq_some_iff.2 ⟨p, q, r, s, ha, hb, hc, hd, rfl⟩⟩

/-- Nothing else stands for no units. -/
theorem SpellsAll.eq_nil {body : List Char} (h : SpellsAll body []) : body = [] := by
  generalize hfound : ([] : List Nat) = found at h
  cases h with
  | nil => rfl
  | cons hpiece _ =>
    have hnil := (List.append_eq_nil_iff.1 hfound.symm).1
    rcases hpiece.character_or_unit with ⟨c, rfl⟩ | ⟨_, _, _, _, unit, _, rfl, _⟩
    · exact absurd hnil (charUnits_ne_nil c)
    · cases hnil

/-- A piece stands for a surrogate by naming it. -/
theorem Spells.surrogate {piece : List Char} {unit : Nat} (h : Spells piece [unit])
    (hunit : isHighSurrogate unit = true ∨ isLowSurrogate unit = true) :
    ∃ a b c d, piece = ['\\', 'u', a, b, c, d] ∧ hexUnit? a b c d = some unit := by
  rcases h.character_or_unit with ⟨c, hc⟩ | ⟨a, b, c, d, _, rfl, hfound, hvalue⟩
  · obtain ⟨hhigh, hlow⟩ := not_surrogate c
    rw [charUnits_eq_singleton hc.symm, hhigh, hlow] at hunit
    exact absurd hunit (by decide)
  · cases hfound
    exact ⟨a, b, c, d, rfl, hvalue⟩

/-- A character is spelled in one piece, or in two pieces that name its surrogates. -/
theorem SpellsAll.character {body : List Char} {c : Char} {others : List Nat}
    (h : SpellsAll body (charUnits c ++ others)) :
    ∃ text, SpellsAll text others ∧
      ((∃ piece, body = piece ++ text ∧ Spells piece (charUnits c)) ∨
        ∃ high low first second, body = high ++ (low ++ text) ∧ charUnits c = [first, second] ∧
          Spells high [first] ∧ Spells low [second]) := by
  generalize hfound : charUnits c ++ others = found at h
  cases h with
  | nil => exact absurd (List.append_eq_nil_iff.1 hfound).1 (charUnits_ne_nil c)
  | @cons piece text first tail hpiece htext =>
    rcases hpiece.character_or_unit with ⟨d, rfl⟩ | ⟨-, -, -, -, unit, -, rfl, -⟩
    · obtain ⟨rfl, rfl⟩ := charUnits_append_inj hfound
      exact ⟨text, htext, .inl ⟨piece, rfl, hpiece⟩⟩
    · by_cases hc : c.toNat < 0x10000
      · have hunits : charUnits c = [c.toNat] := if_pos hc
        rw [hunits, List.singleton_append, List.singleton_append, List.cons.injEq] at hfound
        obtain ⟨hunit, rfl⟩ := hfound
        exact ⟨text, htext, .inl ⟨piece, rfl, by rwa [hunits, hunit]⟩⟩
      · obtain ⟨high, low, hunits⟩ : ∃ high low, charUnits c = [high, low] := ⟨_, _, if_neg hc⟩
        rw [hunits, List.cons_append, List.singleton_append, List.singleton_append,
          List.cons.injEq] at hfound
        obtain ⟨rfl, rfl⟩ := hfound
        have hlow := (surrogates_of_charUnits hunits).2
        generalize hsecond : low :: others = found at htext
        cases htext with
        | nil => cases hsecond
        | @cons next text first tail hnext htext =>
          rcases hnext.character_or_unit with ⟨d, rfl⟩ | ⟨-, -, -, -, unit, -, rfl, -⟩
          · exact absurd hsecond.symm (charUnits_ne_low hlow)
          · rw [List.singleton_append, List.cons.injEq] at hsecond
            obtain ⟨rfl, rfl⟩ := hsecond
            exact ⟨text, htext, .inr ⟨piece, next, high, low, rfl, hunits, hpiece, hnext⟩⟩

/-- A character that is spelled in one piece is read. -/
theorem readQuoted_spells {piece : List Char} {c : Char} (h : Spells piece (charUnits c))
    (rest : List Char) : readQuoted (piece ++ rest) = consChar c (readQuoted rest) := by
  generalize hfound : charUnits c = found at h
  cases h with
  | @plain d hquote hslash hcontrol =>
    cases charUnits_inj hfound
    rw [List.singleton_append, readQuoted, if_neg (Nat.not_lt.2 hcontrol)]
    · exact hquote
    · exact fun _ _ _ _ _ h _ => hslash h
    · exact fun _ h _ => hslash h
    · exact fun h _ => hslash h
    · exact fun _ _ h _ => hslash h
  | @letter letter d h =>
    cases charUnits_inj hfound
    have hletter := (toNat_lt_of_mem_escapes h).2
    rw [List.cons_append, List.singleton_append, readQuoted, escaped?_eq_some_iff.2 h]
    · exact fun _ _ _ _ _ h _ => hletter h
    · exact hletter
  | @unit a b e d p q r s ha hb he hd =>
    obtain ⟨hhigh, hlow⟩ := not_surrogate c
    have hunit := hexUnit?_eq_some_iff.2
      ⟨p, q, r, s, ha, hb, he, hd, (charUnits_eq_singleton hfound).symm⟩
    simp only [List.cons_append, List.nil_append, readQuoted, hunit, hhigh, hlow,
      Bool.false_eq_true, ↓reduceIte, Char.ofNat_toNat]

/-- A character that is spelled by its surrogates is read. -/
theorem readQuoted_pair {high low : List Char} {first second : Nat} {c : Char}
    (hunits : charUnits c = [first, second]) (hhigh : Spells high [first])
    (hlow : Spells low [second]) (rest : List Char) :
    readQuoted (high ++ (low ++ rest)) = consChar c (readQuoted rest) := by
  obtain ⟨hfirst, hsecond⟩ := surrogates_of_charUnits hunits
  obtain ⟨a, b, e, d, rfl, hunit⟩ := hhigh.surrogate (.inl hfirst)
  obtain ⟨a', b', e', d', rfl, hunit'⟩ := hlow.surrogate (.inr hsecond)
  have hnotlow : isLowSurrogate first = false := by
    simp only [isHighSurrogate, isLowSurrogate, Bool.and_eq_true, decide_eq_true_eq,
      Bool.and_eq_false_imp, decide_eq_false_iff_not] at hfirst ⊢
    omega
  have hpair : pairChar first second = c :=
    charUnits_inj ((charUnits_pairChar hfirst hsecond).trans hunits.symm)
  simp only [List.cons_append, List.nil_append, readQuoted, hunit, hunit', hfirst, hnotlow, hsecond,
    Bool.false_eq_true, ↓reduceIte, hpair]

/-- **Reading a literal** takes what the grammar calls one and gives the text whose units it stands
for. A literal that stands for no text is not read. -/
theorem readQuoted_eq_ok_iff {text found rest : List Char} :
    readQuoted text = .ok (found, rest) ↔ Closes text rest (units found) := by
  constructor
  · intro h
    fun_induction readQuoted text generalizing found with
    | case2 tail =>
      cases h
      exact ⟨[], rfl, .nil⟩
    | case8 a b c d high hunit _ hhigh e f g i tail low hunit' hlow ih =>
      obtain ⟨others, rfl, hothers⟩ := consChar_eq_ok_iff.1 h
      obtain ⟨p, q, r, s, ha, hb, hc, hd, rfl⟩ := hexUnit?_eq_some_iff.1 hunit
      obtain ⟨p', q', r', s', he, hf, hg, hi, rfl⟩ := hexUnit?_eq_some_iff.1 hunit'
      rw [units, List.flatMap_cons, charUnits_pairChar hhigh hlow]
      exact ((ih hothers).cons (.unit he hf hg hi)).cons (.unit ha hb hc hd)
    | case12 a b c d tail unit hunit hlow hhigh ih =>
      obtain ⟨others, rfl, hothers⟩ := consChar_eq_ok_iff.1 h
      obtain ⟨p, q, r, s, ha, hb, hc, hd, rfl⟩ := hexUnit?_eq_some_iff.1 hunit
      have hbound : ((p * 16 + q) * 16 + r) * 16 + s < 0x10000 := by
        have := ha.lt; have := hb.lt; have := hc.lt; have := hd.lt
        omega
      rw [units, List.flatMap_cons, charUnits_ofNat hbound hhigh hlow]
      exact (ih hothers).cons (.unit ha hb hc hd)
    | case15 letter tail _ _ c hc ih =>
      obtain ⟨others, rfl, hothers⟩ := consChar_eq_ok_iff.1 h
      exact (ih hothers).cons (.letter (escaped?_eq_some_iff.1 hc))
    | case18 c tail hquote _ _ hlone hescape hcontrol ih =>
      obtain ⟨others, rfl, hothers⟩ := consChar_eq_ok_iff.1 h
      exact (ih hothers).cons
        (.plain hquote (ne_backslash_of_forall hlone hescape) (Nat.not_lt.1 hcontrol))
    | _ => cases h
  · rintro ⟨body, rfl, hbody⟩
    induction found generalizing body with
    | nil =>
      rw [hbody.eq_nil]
      rfl
    | cons c found ih =>
      rw [units, List.flatMap_cons] at hbody
      obtain ⟨text, htext, hfront⟩ := hbody.character
      rcases hfront with ⟨piece, rfl, hpiece⟩ | ⟨high, low, first, second, rfl, hunits, hhigh, hlow⟩
      · rw [List.append_assoc, readQuoted_spells hpiece, ih text htext]
        rfl
      · rw [List.append_assoc, List.append_assoc, readQuoted_pair hunits hhigh hlow, ih text htext]
        rfl

end HistoryExpansion.Json
