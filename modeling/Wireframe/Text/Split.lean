import Wireframe.Text.Blank

/-!
# Pieces of a text

Texts cut at a separator, and pieces joined again.
-/

namespace Wireframe.Text

/-- The pieces between separators; one more than there are separators. -/
def splitChars (separator : Char) : List Char → List (List Char)
  | [] => [[]]
  | c :: cs =>
    if c = separator then [] :: splitChars separator cs
    else match splitChars separator cs with
      | [] => [[c]]
      | piece :: pieces => (c :: piece) :: pieces

theorem splitChars_ne_nil (separator : Char) (cs : List Char) :
    splitChars separator cs ≠ [] := by
  cases cs with
  | nil => simp [splitChars]
  | cons c cs =>
    simp only [splitChars]
    split
    · simp
    · split <;> simp

/-- The text after `start`, if it starts so. -/
def dropStart? (start text : String) : Option String :=
  if start.toList.isPrefixOf text.toList then
    some (String.ofList (text.toList.drop start.length))
  else none

theorem dropStart?_eq_some_iff {start text rest : String} :
    dropStart? start text = some rest ↔ text = start ++ rest := by
  simp only [dropStart?]
  constructor
  · intro h
    split at h
    · next hstart =>
      cases h
      apply String.toList_injective
      rw [String.toList_append, String.toList_ofList, ← String.length_toList]
      exact (List.prefix_iff_eq_append.mp (List.isPrefixOf_iff_prefix.mp hstart)).symm
    · cases h
  · rintro rfl
    simp [← String.length_toList]

theorem isSome_dropStart? {start text : String} :
    (dropStart? start text).isSome = true ↔ start.toList <+: text.toList := by
  rw [Option.isSome_iff_exists]
  constructor
  · rintro ⟨rest, hrest⟩
    rw [dropStart?_eq_some_iff.mp hrest, String.toList_append]
    exact List.prefix_append _ _
  · rintro ⟨rest, hrest⟩
    refine ⟨String.ofList rest, dropStart?_eq_some_iff.mpr (String.toList_injective ?_)⟩
    rw [String.toList_append, String.toList_ofList, hrest]

/-- The text before `ending`, if it ends so. -/
def dropEnd? (ending text : String) : Option String :=
  if ending.toList.isSuffixOf text.toList then
    some (String.ofList (text.toList.take (text.length - ending.length)))
  else none

/-- Whether the text ends in `ending`. -/
def endsWith (ending text : String) : Bool :=
  ending.toList.isSuffixOf text.toList

end Wireframe.Text
