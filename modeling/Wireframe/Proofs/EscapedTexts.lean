import Wireframe.Text.Entity
import Mathlib.Tactic.Common

/-!
# Escaped texts

A text is escaped if it has no bracket and no quote, and if every ampersand in it begins an entity.
These are just the texts that escaping makes, and each is made of one text only: of the one that it
stands for when its entities are read from left to right (`Text.unescape_escape`,
`Text.escapeChars_unescapeChars`).
-/

namespace Wireframe.Text

/-! ### Reading entities -/

/-- The characters that a text with entities stands for. -/
def unescapeChars : List Char → List Char
  | '&' :: 'a' :: 'm' :: 'p' :: ';' :: cs => '&' :: unescapeChars cs
  | '&' :: 'l' :: 't' :: ';' :: cs => '<' :: unescapeChars cs
  | '&' :: 'g' :: 't' :: ';' :: cs => '>' :: unescapeChars cs
  | '&' :: 'q' :: 'u' :: 'o' :: 't' :: ';' :: cs => '"' :: unescapeChars cs
  | '&' :: '#' :: '3' :: '9' :: ';' :: cs => '\x27' :: unescapeChars cs
  | c :: cs => c :: unescapeChars cs
  | [] => []

/-- The text that a text with entities stands for. -/
def unescape (text : String) : String :=
  String.ofList (unescapeChars text.toList)

/-- What is written for a character is read as this character, whatever comes after it. -/
lemma unescapeChars_entity (c : Char) (rest : List Char) :
    unescapeChars (entity c ++ rest) = c :: unescapeChars rest := by
  unfold entity
  split
  case h_6 hamp hlt hgt hquot hapos =>
    rw [List.singleton_append, unescapeChars]
    all_goals
      intros
      simp_all
  all_goals rfl

lemma unescapeChars_escapeChars (cs rest : List Char) :
    unescapeChars (escapeChars cs ++ rest) = cs ++ unescapeChars rest := by
  induction cs with
  | nil => rfl
  | cons c cs ih =>
    rw [escapeChars_cons, List.append_assoc, unescapeChars_entity, ih, List.cons_append]

/-- Entities are read back as the characters they were written for. -/
@[simp] theorem unescape_escape (text : String) : unescape (escape text) = text := by
  have hchars := unescapeChars_escapeChars text.toList []
  rw [List.append_nil, unescapeChars, List.append_nil] at hchars
  rw [unescape, toList_escape, hchars, String.ofList_toList]

-- what is read is not read again
example : unescape "&amp;lt;" = "&lt;" := by decide

/-! ### Escaped texts -/

/-- What the characters that mean something in markup are written as. -/
def entities : List String :=
  ["&amp;", "&lt;", "&gt;", "&quot;", "&#39;"]

/-- Whether characters can stand for a text in markup: there is no bracket and no quote, and every
ampersand begins an entity. -/
structure IsEscaped (cs : List Char) : Prop where
  bare : ∀ c ∈ cs, c ≠ '<' ∧ c ≠ '>' ∧ c ≠ '"' ∧ c ≠ '\x27'
  entity : ∀ rest, '&' :: rest <:+ cs → ∃ written ∈ entities, written.toList <+: '&' :: rest

variable {c : Char} {cs : List Char}

lemma isEscaped_nil : IsEscaped [] :=
  ⟨by simp, by simp⟩

lemma isEscaped_cons :
    IsEscaped (c :: cs) ↔ (c ≠ '<' ∧ c ≠ '>' ∧ c ≠ '"' ∧ c ≠ '\x27')
      ∧ (c = '&' → ∃ written ∈ entities, written.toList <+: c :: cs) ∧ IsEscaped cs := by
  constructor
  · rintro ⟨hbare, hentity⟩
    obtain ⟨hc, hcs⟩ := List.forall_mem_cons.mp hbare
    refine ⟨hc, ?_, hcs, fun rest hrest => hentity rest (hrest.trans (List.suffix_cons c cs))⟩
    rintro rfl
    exact hentity cs List.suffix_rfl
  · rintro ⟨hc, hbegins, hbare, hentity⟩
    refine ⟨List.forall_mem_cons.mpr ⟨hc, hbare⟩, fun rest hrest => ?_⟩
    rcases List.suffix_cons_iff.mp hrest with heq | hrest
    · obtain ⟨rfl, rfl⟩ := List.cons.inj heq
      exact hbegins rfl
    · exact hentity rest hrest

/-- What is written for a text is escaped. -/
lemma isEscaped_escapeChars (cs : List Char) : IsEscaped (escapeChars cs) := by
  induction cs with
  | nil => exact isEscaped_nil
  | cons c cs ih =>
    rw [escapeChars_cons]
    unfold entity
    split
    case h_6 hamp hlt hgt hquot hapos =>
      exact isEscaped_cons.mpr ⟨⟨hlt, hgt, hquot, hapos⟩, fun h => absurd h hamp, ih⟩
    all_goals simp [isEscaped_cons, entities, ih]

/-- A text with entities has no character that opens or closes a tag or a value. -/
theorem ne_of_mem_escapeChars (h : c ∈ escapeChars cs) : c ≠ '<' ∧ c ≠ '>' ∧ c ≠ '"' := by
  obtain ⟨hlt, hgt, hquot, -⟩ := (isEscaped_escapeChars cs).bare c h
  exact ⟨hlt, hgt, hquot⟩

/-- An escaped text is what is written for the text that it stands for. -/
lemma escapeChars_unescapeChars (h : IsEscaped cs) : escapeChars (unescapeChars cs) = cs := by
  fun_induction unescapeChars cs with
  | case7 => rfl
  | case6 c cs hamp hlt hgt hquot hapos ih =>
    obtain ⟨hbare, hbegins, hcs⟩ := isEscaped_cons.mp h
    -- an ampersand would begin one of the entities that were looked for before
    have hc : c ≠ '&' := by
      rintro rfl
      obtain ⟨written, hwritten, tail, heq⟩ := hbegins rfl
      simp only [entities, List.mem_cons, List.not_mem_nil, or_false] at hwritten
      rcases hwritten with rfl | rfl | rfl | rfl | rfl
      all_goals simp at heq
      · exact hamp tail rfl heq.symm
      · exact hlt tail rfl heq.symm
      · exact hgt tail rfl heq.symm
      · exact hquot tail rfl heq.symm
      · exact hapos tail rfl heq.symm
    have hplain : entity c = [c] := by
      unfold entity
      split <;> simp_all
    rw [escapeChars_cons, hplain, ih hcs]
    rfl
  | _ cs ih =>
    rw [escapeChars_cons, ih (by simpa [isEscaped_cons, entities] using h)]
    rfl

end Wireframe.Text
