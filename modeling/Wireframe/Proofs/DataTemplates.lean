import Wireframe.Proofs.FoldedProps
import Wireframe.Proofs.Overrides

/-!
# Data templates

A data template repeats what is in it over a list of its own. One without a list only wraps what is in
it, and reads as that. Its list is the prop under `items`, else that under `itemsSource`, but only the
first of these keys tells that there is a list. So a template with its list under `itemsSource` reads as
what is in it, and the list is lost (`Child.ofJson?_dataTemplate`).
-/

namespace Wireframe

/-! ### Components of objects -/

namespace Component

variable {fields : Entries Json}

/-- A field whose keys are plain holds what is written under the first of them. -/
lemma get?_view_ofFields {field : Field} {keys : List String}
    (hfield : (field, keys) ∈ (ofFields fields).type.form.fields)
    (hkeys : ∀ key ∈ keys, IsPlain key) :
    (ofFields fields).view.get? field = (keys.findSome? (Json.written? fields)).map .ofJson := by
  rw [view, View.get?_ofProps hfield, List.map_findSome?]
  exact View.findSome?_congr fun key hkey => prop?_ofFields (hkeys key hkey) fields

/-- A component that is named is in the content as a reference. -/
lemma content_ofFields_of_string {id : String} (h : fields.get? "component" = some (.string id)) :
    (ofFields fields).slots.content = some (.reference { id }) := by
  simp only [ofFields, ofParts, embedded?, get?_readFields, h]
  rfl

lemma content_ofFields_of_object {inner : Entries Json}
    (h : fields.get? "component" = some (.object inner)) :
    (ofFields fields).slots.content = some (.inline (ofFields inner)) := by
  have hembedded : embedded? (Json.readFields fields) = some (.inline (ofFields inner)) := by
    simp only [embedded?, get?_readFields, h]
    simp [Json.reading, Reading.ofParts, ofFields]
  rw [ofFields, ofParts, hembedded, Option.some_or]

/-- No component is in itself. -/
lemma content_ne_self (component : Component) : component.slots.content ≠ some (.inline component) := by
  intro h
  obtain ⟨type, props, style, layout, children, ⟨content, header, footer, template, emptyView⟩,
    interactions, placement⟩ := component
  have hsize := congrArg sizeOf h
  simp only [Option.some.sizeOf_spec, Child.inline.sizeOf_spec, mk.sizeOf_spec,
    Slots.mk.sizeOf_spec] at hsize
  omega

end Component

/-! ### Templates -/

namespace Component

variable {component : Component}

lemma unwrapped_of_list (h : component.prop? "items" ≠ none) :
    component.unwrapped = .inline component := by
  rw [unwrapped_eq, if_neg fun hbare => h hbare.2]

lemma unwrapped_of_bare (htype : component.type = .dataTemplate) (h : component.prop? "items" = none) :
    component.unwrapped = component.slots.content.getD (.inline component) := by
  rw [unwrapped_eq, if_pos ⟨htype, h⟩]

/-- A template is kept just where it has a list under `items` or nothing is in it. -/
lemma unwrapped_eq_inline_iff (htype : component.type = .dataTemplate) :
    component.unwrapped = .inline component
      ↔ component.prop? "items" ≠ none ∨ component.slots.content = none := by
  by_cases hlist : component.prop? "items" = none
  · rw [unwrapped_of_bare htype hlist]
    cases hcontent : component.slots.content with
    | none => simp
    | some content =>
      have hne : content ≠ .inline component := by
        rintro rfl
        exact content_ne_self component hcontent
      simp [hlist, hne]
  · simp [unwrapped_of_list hlist, hlist]

end Component

namespace Child

variable {fields : Entries Json}

/-- What a data template reads as.

Its list is what is written under `items`, else under `itemsSource`; in `props`, else beside it. The
template itself is kept with this list just where `items` is written or nothing is in it. Else it is
replaced by what is in it, also where it has a list under `itemsSource`: by a reference where `component`
names one, by the component that is written out there. -/
theorem ofJson?_dataTemplate (htype : fields.get? "type" = some (.string "DataTemplate")) :
    let template := Component.ofFields fields
    let items := Json.written? fields "items"
    let source := Json.written? fields "itemsSource"
    template.type = .dataTemplate
      ∧ template.view.get? .items = (items.or source).map .ofJson
      ∧ (ofJson? (.object fields) = some (.inline template)
        ↔ items ≠ none ∨ template.slots.content = none)
      ∧ (items = none → ∀ content, template.slots.content = some content →
        ofJson? (.object fields) = some content)
      ∧ (∀ id, fields.get? "component" = some (.string id) →
        template.slots.content = some (.reference { id }))
      ∧ ∀ inner, fields.get? "component" = some (.object inner) →
        template.slots.content = some (.inline (.ofFields inner)) := by
  intro template items source
  have hkind : template.type = .dataTemplate := by
    simp only [template, Component.ofFields, Component.ofParts, Parts.string?, json_readFields, htype]
    rfl
  have hitems : template.prop? "items" = items.map .ofJson :=
    Component.prop?_ofFields ⟨by decide, rfl⟩ fields
  have hname : Entries.string? fields "type" = some "DataTemplate" := by
    rw [Entries.string?, htype]
    rfl
  have hread : ofJson? (.object fields) = some template.unwrapped := ofJson?_of_type hname
  refine ⟨hkind, ?_, ?_, fun hnone content hcontent => ?_,
    fun _ => Component.content_ofFields_of_string, fun _ => Component.content_ofFields_of_object⟩
  · have hfield : (.items, ["items", "itemsSource"]) ∈ template.type.form.fields := by
      rw [hkind]
      decide
    have hplain : ∀ key ∈ ["items", "itemsSource"], IsPlain key := by
      intro key hkey
      rcases List.mem_pair.mp hkey with rfl | rfl
      · exact ⟨by decide, rfl⟩
      · exact ⟨by decide, rfl⟩
    have hlist : ["items", "itemsSource"].findSome? (Json.written? fields) = items.or source := by
      simp only [List.findSome?_cons, List.findSome?_nil, items, source]
      cases Json.written? fields "items" <;> cases Json.written? fields "itemsSource" <;> rfl
    rw [Component.get?_view_ofFields hfield hplain, hlist]
  · rw [hread, Option.some_inj, Component.unwrapped_eq_inline_iff hkind, hitems, ne_eq, ne_eq,
      Option.map_eq_none_iff]
  · have hbare : template.prop? "items" = none := by
      rw [hitems, hnone, Option.map_none]
    rw [hread, Component.unwrapped_of_bare hkind hbare, hcontent, Option.getD_some]

/-- A template with a list beside its props and a component that is named. -/
theorem ofJson?_dataTemplate_people :
    let fields : Entries Json :=
      [("type", .string "DataTemplate"), ("items", .string "@state.people"),
        ("component", .string "Card")]
    let template := Component.ofFields fields
    ofJson? (.object fields) = some (.inline template)
      ∧ template.view.get? .items = some (.binding (.state ⟨["people"]⟩ "@state.people"))
      ∧ template.slots.content = some (.reference { id := "Card" }) := by
  intro fields template
  have htype : fields.get? "type" = some (.string "DataTemplate") := rfl
  obtain ⟨-, hitems, hkept, -, hcontent, -⟩ := ofJson?_dataTemplate htype
  exact ⟨hkept.mpr (.inl (by simp [Json.written?, fields])), hitems, hcontent "Card" rfl⟩

/-- A template with its list under the other key is the component that it would repeat. -/
theorem ofJson?_itemsSource_people :
    let fields : Entries Json :=
      [("type", .string "DataTemplate"), ("itemsSource", .string "@sampleData.people"),
        ("component", .string "Card")]
    let template := Component.ofFields fields
    template.type = .dataTemplate
      ∧ template.view.get? .items
        = some (.binding (.sampleData ⟨["people"]⟩ "@sampleData.people"))
      ∧ ofJson? (.object fields) = some (.reference { id := "Card" })
      ∧ ofJson? (.object fields) ≠ some (.inline template) := by
  intro fields template
  have hread : ofJson? (.object fields) = some (.reference { id := "Card" }) := rfl
  refine ⟨rfl, rfl, hread, ?_⟩
  rw [hread]
  nofun

end Child

end Wireframe
