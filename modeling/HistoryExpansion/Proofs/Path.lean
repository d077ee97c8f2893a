import HistoryExpansion.Disk.Path

/-!
# The last name of a path

Every path can be taken apart behind its last slash, and what stands there can be exchanged without
a change to the parts before it (`exists_ends`). Where that is a name, replacing its extension does
just this: the new path has the same parts but for the last, which is another name, or two dots
where there is no stem to extend (`segments_temporary`).
-/

namespace HistoryExpansion.Path

/-! ## Splitting -/

theorem splitAtEach_eq_splitOn (separator : Char) (text : List Char) :
    Text.splitAtEach separator text = text.splitOn separator := by
  induction text with
  | nil => rfl
  | cons c text ih =>
    obtain ⟨piece, pieces, hpieces⟩ := List.exists_cons_of_ne_nil
      (List.splitOn_ne_nil separator text)
    rw [Text.splitAtEach, ih, List.splitOn_cons_eq_if_modifyHead, hpieces]
    simp only [beq_iff_eq, List.modifyHead_cons]

theorem splitAtEach_of_notMem {separator : Char} {text : List Char} (h : separator ∉ text) :
    Text.splitAtEach separator text = [text] := by
  rw [splitAtEach_eq_splitOn, List.splitOn_eq_singleton h]

/-- No piece of a text holds the separator. -/
theorem notMem_of_mem_splitAtEach {separator : Char} {text piece : List Char}
    (h : piece ∈ Text.splitAtEach separator text) : separator ∉ piece := by
  rw [splitAtEach_eq_splitOn] at h
  induction text generalizing piece with
  | nil =>
    obtain rfl := List.mem_singleton.1 h
    exact List.not_mem_nil
  | cons c text ih =>
    rw [List.splitOn_cons_eq_if_modifyHead] at h
    split at h
    · rcases List.mem_cons.1 h with rfl | h
      · exact List.not_mem_nil
      · exact ih h
    · next hc =>
      obtain ⟨first, pieces, hpieces⟩ := List.exists_cons_of_ne_nil
        (List.splitOn_ne_nil separator text)
      rw [hpieces] at ih h
      rcases List.mem_cons.1 h with rfl | h
      · rw [List.mem_cons, not_or]
        exact ⟨fun heq => hc (beq_iff_eq.2 heq.symm), ih List.mem_cons_self⟩
      · exact ih (List.mem_cons_of_mem _ h)

/-- What stands behind the last separator of a text is the last piece, and can be exchanged. -/
theorem exists_last_piece (separator : Char) (text : List Char) :
    ∃ front lead last, text = lead ++ last ∧ separator ∉ last ∧
      (lead = [] ∨ lead.getLast? = some separator) ∧
      ∀ other, separator ∉ other →
        Text.splitAtEach separator (lead ++ other) = front ++ [other] := by
  by_cases h : separator ∈ text
  · obtain ⟨last, front, htext, hlast⟩ := List.eq_append_cons_of_mem (List.mem_reverse.2 h)
    refine ⟨front.reverse.splitOn separator, front.reverse ++ [separator], last.reverse, ?_,
      (not_congr List.mem_reverse).2 hlast, .inr List.getLast?_concat, fun other hother => ?_⟩
    · rw [← text.reverse_reverse, htext, List.reverse_append, List.reverse_cons]
    · rw [splitAtEach_eq_splitOn, List.append_assoc, List.singleton_append,
        List.splitOn_append_cons_self, List.splitOn_eq_singleton hother]
  · exact ⟨[], [], text, rfl, h, .inl rfl, fun _ => splitAtEach_of_notMem⟩

/-! ## Paths put together -/

/-- A part of a path counts for what it is if it is not empty. -/
theorem mem_parts {path part : String} (h : part ∈ parts path) :
    part ≠ "" ∧ '/' ∉ part.toList := by
  have hslash : ∀ segment ∈ segments path, '/' ∉ segment.toList := by
    intro segment hsegment
    obtain ⟨piece, hpiece, rfl⟩ := List.mem_map.1 hsegment
    rw [String.toList_ofList]
    exact notMem_of_mem_splitAtEach hpiece
  unfold parts at h
  split at h
  · cases h
  · next first rest hsegments =>
    rw [hsegments] at hslash
    rcases List.mem_append.1 h with h | h
    · split at h
      · cases h
      · next hfirst =>
        obtain rfl := List.mem_singleton.1 h
        exact ⟨hfirst, hslash _ List.mem_cons_self⟩
    · obtain ⟨hrest, hkept⟩ := List.mem_filter.1 h
      exact ⟨(of_decide_eq_true hkept).1, hslash _ (List.mem_cons_of_mem _ hrest)⟩

/-- The segments of a path that is put together from parts. -/
theorem segments_ofParts {parts : List String} (h : parts ≠ [])
    (hparts : ∀ part ∈ parts, '/' ∉ part.toList) (absolute : Bool) :
    segments (ofParts absolute parts) = (if absolute then [""] else []) ++ parts := by
  have hsplit : (['/'].intercalate (parts.map String.toList)).splitOn '/' =
      parts.map String.toList := by
    refine List.splitOn_intercalate '/' (fun piece hpiece => ?_)
      ((not_congr List.map_eq_nil_iff).2 h)
    obtain ⟨part, hpart, rfl⟩ := List.mem_map.1 hpiece
    exact hparts part hpart
  have hback : (parts.map String.toList).map String.ofList = parts := by
    rw [List.map_map, show String.ofList ∘ String.toList = id from funext fun _ =>
      String.ofList_toList, List.map_id]
  rw [segments, ofParts, String.toList_append, String.toList_intercalate, splitAtEach_eq_splitOn]
  cases absolute with
  | false =>
    show ((['/'].intercalate (parts.map String.toList)).splitOn '/').map String.ofList = parts
    rw [hsplit, hback]
  | true =>
    show (([] ++ '/' :: ['/'].intercalate (parts.map String.toList)).splitOn '/').map
      String.ofList = [""] ++ parts
    rw [List.splitOn_append_cons_self_of_not_mem List.not_mem_nil, hsplit, List.map_cons, hback]
    rfl

/-- A path that is put together starts at the root if it is meant to. -/
theorem isAbsolute_ofParts {parts : List String} (h : parts ≠ [])
    (hparts : ∀ part ∈ parts, part ≠ "" ∧ '/' ∉ part.toList) (absolute : Bool) :
    isAbsolute (ofParts absolute parts) = absolute := by
  rw [isAbsolute, ofParts, String.toList_append, String.toList_intercalate]
  cases absolute with
  | true => rfl
  | false =>
    obtain ⟨first, rest, rfl⟩ := List.exists_cons_of_ne_nil h
    obtain ⟨hfirst, hslash⟩ := hparts first List.mem_cons_self
    obtain ⟨c, text, htext⟩ := List.exists_cons_of_ne_nil
      ((not_congr String.toList_eq_nil_iff).2 hfirst)
    have hc : c ≠ '/' := by
      rintro rfl
      rw [htext] at hslash
      exact hslash List.mem_cons_self
    rw [beq_eq_false_iff_ne]
    cases rest with
    | nil =>
      show (['/'].intercalate [first.toList]).head? ≠ some '/'
      rw [List.intercalate_singleton, htext]
      exact fun hhead => hc (Option.some.inj hhead)
    | cons second rest =>
      show (['/'].intercalate (first.toList :: second.toList :: rest.map String.toList)).head? ≠ _
      rw [List.intercalate_cons_cons, htext]
      exact fun hhead => hc (Option.some.inj hhead)

/-! ## The end of a path -/

/-- A path taken apart behind its last slash: the parts up to there, their text, and the rest. -/
structure Ends (path : String) (front : List String) (lead last : List Char) : Prop where
  text : path = String.ofList (lead ++ last)
  noSlash : '/' ∉ last
  slash : lead = [] ∨ lead.getLast? = some '/'
  /-- The rest can be exchanged. -/
  exchange : ∀ other, '/' ∉ other →
    segments (String.ofList (lead ++ other)) = front ++ [String.ofList other]

theorem exists_ends (path : String) : ∃ front lead last, Ends path front lead last := by
  obtain ⟨front, lead, last, htext, hlast, hlead, hsplit⟩ := exists_last_piece '/' path.toList
  refine ⟨front.map String.ofList, lead, last, ⟨?_, hlast, hlead, fun other hother => ?_⟩⟩
  · rw [← htext, String.ofList_toList]
  · rw [segments, String.toList_ofList, hsplit other hother, List.map_append, List.map_singleton]

variable {path : String} {front : List String} {lead last other : List Char}

theorem Ends.segments_eq (h : Ends path front lead last) :
    segments path = front ++ [String.ofList last] := by
  rw [h.text]
  exact h.exchange last h.noSlash

/-- Every path has a last part. -/
theorem exists_segments (path : String) : ∃ front last, segments path = front ++ [last] := by
  obtain ⟨front, lead, last, h⟩ := exists_ends path
  exact ⟨front, _, h.segments_eq⟩

theorem segments_ne_nil (path : String) : segments path ≠ [] := by
  obtain ⟨front, last, h⟩ := exists_segments path
  rw [h]
  exact List.concat_ne_nil _ _

theorem head?_append_of_notMem (h : '/' ∉ last) :
    ((lead ++ last).head? == some '/') = (lead.head? == some '/') := by
  cases lead with
  | nil =>
    rw [List.nil_append, List.head?_nil, beq_eq_false_iff_ne.2 fun hhead =>
      h (List.mem_of_head? hhead)]
    rfl
  | cons c lead => rfl

/-- What stands behind the last slash does not tell whether the path starts at the root. -/
theorem Ends.isAbsolute_exchange (h : Ends path front lead last) (hother : '/' ∉ other) :
    isAbsolute (String.ofList (lead ++ other)) = isAbsolute path := by
  rw [h.text, isAbsolute, isAbsolute, String.toList_ofList, String.toList_ofList,
    head?_append_of_notMem hother, head?_append_of_notMem h.noSlash]

/-- A path whose last part is empty ends in a slash, unless it is empty itself. -/
theorem endsInSlash_of_segments (h : segments path = front ++ [""]) (hpath : path ≠ "") :
    endsInSlash path = true := by
  obtain ⟨front', lead, last, hends⟩ := exists_ends path
  obtain ⟨rfl, hlast⟩ := List.append_inj' (h.symm.trans hends.segments_eq) rfl
  have hempty : last = [] := String.ofList_injective (List.singleton_inj.1 hlast).symm
  have htext := hends.text
  rw [hempty, List.append_nil] at htext
  have hlead : lead ≠ [] := by
    rintro rfl
    exact hpath htext
  rw [endsInSlash, htext, String.toList_ofList, hends.slash.resolve_left hlead]
  rfl

/-- A path of nothing but slashes starts at the root. -/
theorem isAbsolute_of_segments {path : String} (h : ∀ segment ∈ segments path, segment = "")
    (hpath : path ≠ "") : isAbsolute path = true := by
  cases htext : path.toList with
  | nil => exact absurd (String.toList_eq_nil_iff.1 htext) hpath
  | cons c rest =>
    by_cases hc : c = '/'
    · rw [isAbsolute, htext, hc]
      rfl
    · obtain ⟨piece, pieces, hpieces⟩ := List.exists_cons_of_ne_nil (List.splitOn_ne_nil '/' rest)
      have hfirst : String.ofList (c :: piece) ∈ segments path := by
        rw [segments, htext, splitAtEach_eq_splitOn, List.splitOn_cons_eq_if_modifyHead, hpieces,
          if_neg fun heq => hc (eq_of_beq heq)]
        exact List.mem_cons_self
      exact absurd (String.ofList_injective (h _ hfirst)) (List.cons_ne_nil _ _)

/-- A part of a path that names something, and is not a way to stay or to go back. -/
structure IsProper (part : String) : Prop where
  nonempty : part ≠ ""
  ne_dot : part ≠ "."
  ne_dots : part ≠ ".."

theorem IsProper.of_length {part : String} (h : 2 < part.length) : IsProper part :=
  ⟨by rintro rfl; exact absurd h (by decide), by rintro rfl; exact absurd h (by decide),
    by rintro rfl; exact absurd h (by decide)⟩

theorem getLast?_parts {name : String} (h : segments path = front ++ [name])
    (hname : IsProper name) : (parts path).getLast? = some name := by
  cases front with
  | nil =>
    rw [parts, h]
    show ((if name = "" then [] else [name]) ++ []).getLast? = some name
    rw [if_neg hname.nonempty]
    rfl
  | cons first rest =>
    rw [parts, h]
    show (_ ++ (rest ++ [name]).filter _).getLast? = some name
    rw [List.filter_append, List.filter_cons_of_pos, List.filter_nil, ← List.append_assoc,
      List.getLast?_concat]
    exact decide_eq_true ⟨hname.nonempty, hname.ne_dot⟩

theorem fileName?_eq {name : String} (h : segments path = front ++ [name]) (hname : IsProper name) :
    fileName? path = some name := by
  rw [fileName?, getLast?_parts h hname]
  exact if_neg (not_or.2 ⟨hname.ne_dot, hname.ne_dots⟩)

/-- No slash and no lone dot ends a path that ends in a name. -/
theorem dropTrailer_eq (h : '/' ∉ last) (hlast : IsProper (String.ofList last)) :
    beforeName.dropTrailer (lead ++ last).reverse = (lead ++ last).reverse := by
  rw [List.reverse_append]
  rw [← List.mem_reverse] at h
  have hdot : last.reverse ≠ ['.'] := fun hdot =>
    hlast.ne_dot (by rw [← last.reverse_reverse, hdot]; rfl)
  have hempty : last.reverse ≠ [] := fun hempty =>
    hlast.nonempty (by rw [← last.reverse_reverse, hempty]; rfl)
  generalize last.reverse = reversed at h hdot hempty
  unfold beforeName.dropTrailer
  split
  · next rest heq =>
    cases reversed with
    | nil => exact absurd rfl hempty
    | cons c reversed =>
      obtain ⟨rfl, -⟩ := List.cons.inj heq
      exact absurd List.mem_cons_self h
  · next rest heq =>
    match reversed with
    | [] => exact absurd rfl hempty
    | [c] =>
      obtain ⟨rfl, -⟩ := List.cons.inj heq
      exact absurd rfl hdot
    | c :: d :: reversed =>
      obtain ⟨-, htail⟩ := List.cons.inj heq
      obtain ⟨rfl, -⟩ := List.cons.inj htail
      exact absurd (List.mem_cons_of_mem _ List.mem_cons_self) h
  · rfl

theorem beforeName_eq (h : '/' ∉ last) (hlast : IsProper (String.ofList last)) :
    beforeName (lead ++ last) last = lead := by
  rw [beforeName]
  simp only [dropTrailer_eq h hlast, Nat.sub_self, Nat.sub_zero, List.length_append,
    Nat.add_sub_cancel]
  exact List.take_left

/-! ## Extensions -/

theorem stemOf_append {stem extension : List Char} (h : '.' ∉ extension) (hstem : stem ≠ []) :
    stemOf (stem ++ '.' :: extension) = stem := by
  have hdrop : ((stem ++ '.' :: extension).reverse.dropWhile (· ≠ '.')).reverse =
      stem ++ ['.'] := by
    rw [List.reverse_append, List.reverse_cons, List.append_assoc,
      List.dropWhile_append_of_pos fun c hc => ?_]
    · rw [List.singleton_append, List.dropWhile_cons_of_neg (by simp), List.reverse_cons,
        List.reverse_reverse]
    · exact decide_eq_true fun hdot => h (hdot ▸ List.mem_reverse.1 hc)
  have hlong : (stem ++ ['.']).length ≠ 1 := by
    rw [List.length_append, List.length_singleton]
    have := List.length_pos_iff.2 hstem
    omega
  rw [stemOf, hdrop]
  split
  · next heq => exact absurd heq (List.concat_ne_nil _ _)
  · rw [if_neg hlong, List.dropLast_concat]

/-- A name is its stem, perhaps with a dot and an extension behind it. -/
theorem stemOf_isPrefix (name : List Char) : stemOf name <+: name := by
  unfold stemOf
  split
  · exact List.prefix_rfl
  · next hdrop =>
    split
    · exact List.prefix_rfl
    · refine ( List.dropLast_prefix _).trans ?_
      rw [← List.reverse_suffix, List.reverse_reverse]
      exact List.dropWhile_suffix _

/-- Replacing the extension of a path that ends in a name. -/
theorem withExtension_eq (h : Ends path front lead last) (hlast : IsProper (String.ofList last))
    (extension : String) :
    withExtension path extension =
      if stemOf last = ['.'] then String.ofList (lead ++ ['.', '.'])
      else String.ofList (lead ++ (stemOf last ++ '.' :: extension.toList)) := by
  rw [withExtension, fileName?_eq h.segments_eq hlast]
  simp only [h.text, String.toList_ofList, beforeName_eq h.noSlash hlast, String.length_ofList,
    List.length_append, and_true]
  split
  · rfl
  · rw [← String.toList_inj, String.toList_append, String.toList_append, String.toList_ofList,
      String.toList_ofList, String.toList_ofList, List.append_assoc, List.append_assoc]
    rfl

/-- **Replacing the extension of a path** that ends in a name leaves the parts before it. What the
new path ends in is not that name, and may be no name at all. -/
theorem segments_temporary {name : String} (h : segments path = front ++ [name])
    (hname : IsProper name) :
    ∃ other, segments (withExtension path "json.tmp") = front ++ [other] ∧ other ≠ name ∧
      (other = ".." ∨ IsProper other) ∧
      isAbsolute (withExtension path "json.tmp") = isAbsolute path := by
  obtain ⟨front', lead, last, hends⟩ := exists_ends path
  obtain ⟨rfl, hlast⟩ := List.append_inj' (h.symm.trans hends.segments_eq) rfl
  obtain rfl := List.singleton_inj.1 hlast
  rw [withExtension_eq hends hname]
  split
  · have hdots : '/' ∉ ['.', '.'] := by decide
    exact ⟨"..", hends.exchange _ hdots, hname.ne_dots.symm, .inl rfl,
      hends.isAbsolute_exchange hdots⟩
  · have hslash : '/' ∉ stemOf last ++ '.' :: "json.tmp".toList := by
      rw [List.mem_append, not_or]
      exact ⟨fun hstem => hends.noSlash ((stemOf_isPrefix last).mem hstem), by decide⟩
    refine ⟨_, hends.exchange _ hslash, fun heq => ?_, .inr (.of_length ?_),
      hends.isAbsolute_exchange hslash⟩
    · have hback : stemOf ((stemOf last ++ ".json".toList) ++ '.' :: "tmp".toList) =
          stemOf last ++ ".json".toList :=
        stemOf_append (by decide) fun hnil => absurd (List.append_eq_nil_iff.1 hnil).2 (by decide)
      have hsame : (stemOf last ++ ".json".toList) ++ '.' :: "tmp".toList = last := by
        rw [List.append_assoc]
        exact String.ofList_injective heq
      rw [hsame] at hback
      exact absurd (List.self_eq_append_right.1 hback) (by decide)
    · rw [String.length_ofList, List.length_append]
      exact Nat.lt_of_lt_of_le (by decide) (Nat.le_add_left _ _)

end HistoryExpansion.Path
