import Wireframe.Path
import Mathlib.Data.List.DropRight
import Mathlib.Tactic.Common

/-!
# Dotted paths

The segments of a path are what stands between the points of a text, without blank ends and without
the empty ones (`Path.segments_parse`). The text that shows a path that was read gives the same path
when it is read again (`Path.parse_display_parse`).
-/

namespace Wireframe

namespace Text

variable {cs core piece : List Char} {separator : Char}

/-! ### Blank ends -/

/-- Whether a text is what another one holds between its blank ends. -/
structure Trims (cs core : List Char) : Prop where
  within : ∃ before after, cs = before ++ core ++ after
    ∧ (∀ c ∈ before, isBlank c = true) ∧ ∀ c ∈ after, isBlank c = true
  first : ∀ c ∈ core.head?, isBlank c = false
  last : ∀ c ∈ core.getLast?, isBlank c = false

lemma trims_trimChars (cs : List Char) : Trims cs (trimChars cs) where
  within := by
    refine ⟨cs.takeWhile isBlank, (cs.dropWhile isBlank).rtakeWhile isBlank, ?_,
      fun c hc => List.mem_takeWhile_imp hc, fun c hc => List.mem_rtakeWhile_imp hc⟩
    have hafter : trimChars cs ++ (cs.dropWhile isBlank).rtakeWhile isBlank
        = cs.dropWhile isBlank := List.rdropWhile_append_rtakeWhile
    rw [List.append_assoc, hafter, List.takeWhile_append_dropWhile]
  first c hc := by
    obtain ⟨rest, hrest⟩ := List.head?_eq_some_iff.mp hc
    obtain ⟨more, hmore⟩ : trimChars cs <+: cs.dropWhile isBlank := List.rdropWhile_prefix _ _
    have hhead := List.head?_dropWhile_not isBlank cs
    rw [← hmore, hrest] at hhead
    exact hhead
  last c hc := by
    obtain ⟨hne, rfl⟩ := List.mem_getLast?_eq_getLast hc
    exact Bool.eq_false_iff.mpr (List.rdropWhile_last_not isBlank (cs.dropWhile isBlank) hne)

/-- A text has one core only. -/
lemma Trims.eq (h : Trims cs core) : trimChars cs = core := by
  obtain ⟨before, after, rfl, hbefore, hafter⟩ := h.within
  rw [trimChars, List.append_assoc, List.dropWhile_append_of_pos hbefore]
  cases core with
  | nil =>
    rw [List.nil_append, List.dropWhile_eq_nil_iff.mpr hafter]
    rfl
  | cons c core =>
    have hc : isBlank c = false := h.first c rfl
    rw [List.cons_append, List.dropWhile_cons_of_neg (by simp [hc]), dropWhileEnd,
      ← List.cons_append, List.reverse_append,
      List.dropWhile_append_of_pos fun c hc => hafter c (List.mem_reverse.mp hc)]
    refine List.rdropWhile_eq_self_iff.mpr fun hne => ?_
    simp [h.last _ (List.getLast?_eq_some_getLast hne)]

/-- Nothing is cut off a text whose ends are not blank. -/
lemma trimChars_eq_self (hfirst : ∀ c ∈ cs.head?, isBlank c = false)
    (hlast : ∀ c ∈ cs.getLast?, isBlank c = false) : trimChars cs = cs :=
  Trims.eq ⟨⟨[], [], by simp, by simp, by simp⟩, hfirst, hlast⟩

lemma trimChars_trimChars (cs : List Char) : trimChars (trimChars cs) = trimChars cs :=
  trimChars_eq_self (trims_trimChars cs).first (trims_trimChars cs).last

lemma trimChars_of_forall (h : ∀ c ∈ cs, isBlank c = false) : trimChars cs = cs :=
  trimChars_eq_self (fun c hc => h c (List.mem_of_mem_head? hc))
    fun c hc => h c (List.mem_of_getLast? hc)

lemma mem_of_mem_trimChars {c : Char} (h : c ∈ trimChars cs) : c ∈ cs := by
  obtain ⟨before, after, hcs, -⟩ := (trims_trimChars cs).within
  rw [hcs]
  exact List.mem_append_left _ (List.mem_append_right _ h)

/-! ### Pieces -/

lemma splitChars_eq_splitOn (separator : Char) (cs : List Char) :
    splitChars separator cs = cs.splitOn separator := by
  induction cs with
  | nil => rfl
  | cons c cs ih =>
    have hne := ih ▸ splitChars_ne_nil separator cs
    simp only [splitChars, ih, List.splitOn, List.splitOnP_cons_eq_if_modifyHead,
      beq_iff_eq] at hne ⊢
    split
    · rfl
    · cases hpieces : cs.splitOnP (· == separator) with
      | nil => exact absurd hpieces hne
      | cons piece pieces => rfl

/-- What a piece is made of. -/
lemma of_mem_splitChars {c : Char} (h : piece ∈ splitChars separator cs) (hc : c ∈ piece) :
    c ≠ separator ∧ c ∈ cs := by
  induction cs generalizing piece with
  | nil => simp_all [splitChars]
  | cons first cs ih =>
    rw [splitChars] at h
    split at h
    · rcases List.mem_cons.mp h with rfl | h
      · cases hc
      · exact (ih h hc).imp_right (List.mem_cons_of_mem _)
    · next hfirst =>
      split at h
      · next hnil => exact absurd hnil (splitChars_ne_nil separator cs)
      · next piece' pieces hpieces =>
        rcases List.mem_cons.mp h with rfl | h
        · rcases List.mem_cons.mp hc with rfl | hc
          · exact ⟨hfirst, List.mem_cons_self⟩
          · exact (ih (hpieces ▸ List.mem_cons_self) hc).imp_right (List.mem_cons_of_mem _)
        · exact (ih (hpieces ▸ List.mem_cons_of_mem _ h) hc).imp_right (List.mem_cons_of_mem _)

end Text

namespace Path

open Text

variable {segment : String}

/-- The segments are the pieces between the points, trimmed, as far as something is left of them. -/
theorem segments_parse (text : String) :
    (parse text).segments
      = (((text.toList.splitOn '.').map trimChars).filter (· ≠ [])).map String.ofList := by
  rw [parse, splitChars_eq_splitOn]
  induction text.toList.splitOn '.' with
  | nil => rfl
  | cons piece pieces ih =>
    cases hpiece : trimChars piece with
    | nil => simpa [hpiece] using ih
    | cons c cs => simpa [hpiece] using ih

/-- Whether a text may be a segment of a path that was read. -/
structure IsSegment (segment : String) : Prop where
  ne_nil : segment.toList ≠ []
  pointFree : '.' ∉ segment.toList
  trimmed : trimChars segment.toList = segment.toList

lemma isSegment_of_mem_parse {text : String} (h : segment ∈ (parse text).segments) :
    IsSegment segment := by
  rw [segments_parse, ← splitChars_eq_splitOn] at h
  obtain ⟨core, hcore, rfl⟩ := List.mem_map.mp h
  obtain ⟨hcore, hne⟩ := List.mem_filter.mp hcore
  obtain ⟨piece, hpiece, rfl⟩ := List.mem_map.mp hcore
  rw [decide_eq_true_eq] at hne
  exact
    { ne_nil := by rwa [String.toList_ofList]
      pointFree := fun hpoint => (of_mem_splitChars hpiece
        (mem_of_mem_trimChars (by rwa [String.toList_ofList] at hpoint))).1 rfl
      trimmed := by rw [String.toList_ofList, trimChars_trimChars] }

/-- The text that shows a path reads as this path, if segments are what reading makes them. -/
theorem parse_display_of_isSegment {path : Path}
    (h : ∀ segment ∈ path.segments, IsSegment segment) : parse path.display = path := by
  obtain ⟨segments⟩ := path
  refine congrArg Path.mk ?_
  by_cases hnil : segments = []
  · subst hnil
    rfl
  · have hpoints : ∀ piece ∈ segments.map String.toList, '.' ∉ piece := by
      simpa using fun segment hsegment => (h segment hsegment).pointFree
    have hsplit : (display ⟨segments⟩).toList.splitOn '.' = segments.map String.toList := by
      rw [display, String.toList_intercalate]
      exact List.splitOn_intercalate '.' hpoints (by simpa using hnil)
    calc (parse (display ⟨segments⟩)).segments
        = (((segments.map String.toList).map trimChars).filter (· ≠ [])).map String.ofList := by
          rw [segments_parse, hsplit]
      _ = ((segments.map String.toList).filter (· ≠ [])).map String.ofList := by
          congr 2
          rw [List.map_map]
          exact List.map_congr_left fun segment hsegment => (h segment hsegment).trimmed
      _ = (segments.map String.toList).map String.ofList := by
          congr 1
          refine List.filter_eq_self.mpr fun piece hpiece => ?_
          obtain ⟨segment, hsegment, rfl⟩ := List.mem_map.mp hpiece
          simpa using (h segment hsegment).ne_nil
      _ = segments := by simp

/-- Reading, showing and reading again is reading once. -/
theorem parse_display_parse (text : String) : parse (parse text).display = parse text :=
  parse_display_of_isSegment fun _ => isSegment_of_mem_parse

end Path

end Wireframe
