import Wireframe.Proofs.BoundControls

/-!
# Item bindings outside of lists

Where there is no item, an item binding reads the state. It finds something just where a binding to the
state does, and the same thing, unless the state holds a text that refers to sample data: that is
followed for a binding to the state only (`Binding.lookup_item_eq_lookup_state_iff`).
-/

namespace Wireframe.Binding

variable {context : Context} {path : Path}

lemma lookup_item (h : context.item = none) (path : Path) (source : String) :
    (item path none source).lookup context = context.state.lookup path := by
  rw [lookup, h, Option.getD_none]
  exact congrFun Option.map_id _

/-- Following changes a value only if it refers to sample data that is there and is another value. -/
lemma follow_eq_self_iff {value : Json} : follow context value = value
    ↔ ∀ rest inner, value = .string ("@sampleData." ++ rest) →
      context.sampleData.lookup (Path.parse rest) = some inner → inner = value := by
  constructor
  · rintro h rest inner rfl hinner
    rwa [follow_of_reference hinner] at h
  · intro h
    by_cases hreference : ∃ rest inner, value = .string ("@sampleData." ++ rest)
        ∧ context.sampleData.lookup (Path.parse rest) = some inner
    · obtain ⟨rest, inner, rfl, hinner⟩ := hreference
      rw [follow_of_reference hinner]
      exact h rest inner rfl hinner
    · cases value with
      | string text =>
        refine follow_of_no_reference fun rest htext => ?_
        refine Option.eq_none_iff_forall_ne_some.mpr fun inner hinner => hreference ?_
        exact ⟨rest, inner, congrArg Json.string htext, hinner⟩
      | _ => rfl

/-- Without an item around, a binding to the state finds what an item binding with the same path finds,
once it is followed. So the two find the same if and only if the state holds no text there that refers
to sample data which is there and is not this text again. -/
theorem lookup_item_eq_lookup_state_iff (h : context.item = none) (path : Path)
    (source written : String) :
    (state path written).lookup context
        = ((item path none source).lookup context).map (follow context)
      ∧ ((item path none source).lookup context = (state path written).lookup context
        ↔ ∀ rest inner, context.state.lookup path = some (.string ("@sampleData." ++ rest)) →
          context.sampleData.lookup (Path.parse rest) = some inner →
          inner = .string ("@sampleData." ++ rest)) := by
  rw [lookup_item h, lookup]
  refine ⟨rfl, ?_⟩
  cases hfound : context.state.lookup path with
  | none => simp
  | some value =>
    rw [Option.map_some, Option.some_inj, eq_comm, follow_eq_self_iff]
    constructor
    · intro hsame rest inner hvalue hinner
      cases hvalue
      exact hsame rest inner rfl hinner
    · rintro hsame rest inner rfl hinner
      exact hsame rest inner rfl hinner

/-- A note, and a reference to sample data that is not there. -/
theorem lookup_item_eq_lookup_state_note :
    ∃ context : Context, context.item = none
      ∧ context.sampleData = .object [("todos", .array [.natural 1, .natural 2])]
      ∧ context.state = .object [("note", .string "Lens cap"), ("copy", .string "@sampleData.done")]
      ∧ (item ⟨["note"]⟩ none "\x7bbinding note\x7d").lookup context
        = (state ⟨["note"]⟩ "@state.note").lookup context
      ∧ (item ⟨["copy"]⟩ none "\x7bbinding copy\x7d").lookup context
        = (state ⟨["copy"]⟩ "@state.copy").lookup context := by
  have hnote : Text.dropStart? "@sampleData." "Lens cap" = none := by decide
  have hcopy : Text.dropStart? "@sampleData." "@sampleData.done" = some "done" := by decide
  refine ⟨⟨_, _, none, 0⟩, rfl, rfl, rfl, ?_, ?_⟩
  · refine (lookup_item_eq_lookup_state_iff rfl _ _ _).2.mpr fun rest inner hfound => ?_
    have hrest := Text.dropStart?_eq_some_iff.mpr (Json.string.inj (Option.some_inj.mp hfound))
    rw [hnote] at hrest
    cases hrest
  · refine (lookup_item_eq_lookup_state_iff rfl _ _ _).2.mpr fun rest inner hfound hinner => ?_
    have hrest := Text.dropStart?_eq_some_iff.mpr (Json.string.inj (Option.some_inj.mp hfound))
    rw [hcopy] at hrest
    cases hrest
    cases hinner

/-- A reference to sample data that is there. -/
theorem lookup_item_ne_lookup_state_todos :
    ∃ context : Context, context.item = none
      ∧ context.sampleData = .object [("todos", .array [.natural 1, .natural 2])]
      ∧ context.state = .object [("copy", .string "@sampleData.todos")]
      ∧ parse "\x7bbinding copy\x7d" = item ⟨["copy"]⟩ none "\x7bbinding copy\x7d"
      ∧ parse "@state.copy" = state ⟨["copy"]⟩ "@state.copy"
      ∧ (item ⟨["copy"]⟩ none "\x7bbinding copy\x7d").lookup context
        = some (.string "@sampleData.todos")
      ∧ (state ⟨["copy"]⟩ "@state.copy").lookup context
        = some (.array [.natural 1, .natural 2]) :=
  ⟨⟨_, _, none, 0⟩, rfl, rfl, rfl, by decide +kernel, by decide +kernel, rfl, rfl⟩

end Wireframe.Binding
