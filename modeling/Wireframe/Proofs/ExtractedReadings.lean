import Wireframe.Document.Loading
import Wireframe.Proofs.ExtractedDrawings

/-!
# Reading what is referred to instead of written out

In a value a component that is written out as a child is replaced by a reference to a name that occurs
nowhere in the value (`Json.Extracts`). Both read as components that are the same but for the child
(`Json.Extracts.alike`).
-/

namespace Wireframe

/-! ### Values -/

namespace Json

mutual
/-- The keys and the texts of a value. -/
def texts : Json → List String
  | string text => [text]
  | array items => textsOfItems items
  | object fields => textsOfFields fields
  | _ => []

def textsOfItems : List Json → List String
  | [] => []
  | item :: items => item.texts ++ textsOfItems items

def textsOfFields : List (String × Json) → List String
  | [] => []
  | (key, value) :: fields => key :: value.texts ++ textsOfFields fields
end

lemma mem_textsOfFields {text : String} {fields : List (String × Json)} :
    text ∈ textsOfFields fields
      ↔ ∃ key value, (key, value) ∈ fields ∧ (text = key ∨ text ∈ value.texts) := by
  induction fields with
  | nil => simp [textsOfFields]
  | cons field fields ih =>
    obtain ⟨key, value⟩ := field
    simp only [textsOfFields, List.cons_append, List.mem_cons, List.mem_append, ih]
    constructor
    · rintro (rfl | hvalue | ⟨key', value', hmem, h⟩)
      · exact ⟨_, _, .inl rfl, .inl rfl⟩
      · exact ⟨_, _, .inl rfl, .inr hvalue⟩
      · exact ⟨key', value', .inr hmem, h⟩
    · rintro ⟨key', value', heq | hmem, h⟩
      · cases heq
        exact h.imp_right .inl
      · exact .inr (.inr ⟨key', value', hmem, h⟩)

lemma mem_textsOfItems {text : String} {items : List Json} :
    text ∈ textsOfItems items ↔ ∃ item ∈ items, text ∈ item.texts := by
  induction items with
  | nil => simp [textsOfItems]
  | cons item items ih => simp [textsOfItems, ih]

/-- How a value is read. -/
inductive Role where
  /-- As a place in a layout. -/
  | child
  /-- As a component that is declared. -/
  | component

/-- The use of the component with this name, without overrides. -/
def use (name : String) : Json :=
  .object [("component", .string name)]

/-- Whether in a value, as it is read, the object with the fields `body` is replaced by a reference in
one place: in a list of children or in a slot, of a component that is written out however deep inside.
It is not replaced where a component's layout hands on the children of the object, for a reference
there is a child itself. -/
inductive Extracts (name : String) (body : Entries Json) : Role → Json → Json → Prop where
  | here : Extracts name body .child (.object body) (use name)
  | written {fields fields' : Entries Json} (htype : (fields.string? "type").isSome)
      (h : Extracts name body .component (.object fields) (.object fields')) :
      Extracts name body .child (.object fields) (.object fields')
  | item {item item' : Json} (h : Extracts name body .child item item')
      (items more : List Json) (before after : Entries Json) :
      Extracts name body .component
        (.object (before ++ ("children", .array (items ++ item :: more)) :: after))
        (.object (before ++ ("children", .array (items ++ item' :: more)) :: after))
  | slot {value value' : Json} (h : Extracts name body .child value value') (slot : Slot)
      (before after : Entries Json) :
      Extracts name body .component (.object (before ++ (slot.name, value) :: after))
        (.object (before ++ (slot.name, value') :: after))
  | prop {value value' : Json} (h : Extracts name body .child value value') (slot : Slot)
      (props more before after : Entries Json) :
      Extracts name body .component
        (.object (before ++ ("props", .object (props ++ (slot.name, value) :: more)) :: after))
        (.object (before ++ ("props", .object (props ++ (slot.name, value') :: more)) :: after))
  | layout {value value' : Json} (h : Extracts name body .child value value')
      (hkeeps : ∀ reference, Child.ofJson? value' = some (.reference reference) →
        Child.ofJson? value = some (.reference reference))
      (before after : Entries Json) :
      Extracts name body .component (.object (before ++ ("layout", value) :: after))
        (.object (before ++ ("layout", value') :: after))
  | embedded {value value' : Json} (h : Extracts name body .component value value')
      (before after : Entries Json) :
      Extracts name body .component (.object (before ++ ("component", value) :: after))
        (.object (before ++ ("component", value') :: after))

end Json

/-! ### Readings -/

/-- The keys of a component object that children are read from. -/
def childKeys : List String :=
  ["props", "layout", "children", "content", "header", "footer", "template", "emptyView",
    "component"]

section

variable (name : String) (declared : Component)

/-- Whether a prop reads the same, but for what is extracted from it if it fills a slot. -/
structure PropAlike (field other : String × Json × Option Child) : Prop where
  key : other.1 = field.1
  value : other.2.1 = field.2.1
    ∨ (Slot.ofName? field.1).isSome ∧ field.2.1.isObject ∧ other.2.1.isObject
  child : Option.Rel (Child.Extracted name declared) field.2.2 other.2.2

/-- Whether readings are the same in every place, but for what is extracted. -/
structure Reading.Alike (reading other : Reading) : Prop where
  component : Option.Rel (fun component => component.Extracted name declared)
    reading.component other.component
  child : Option.Rel (Child.Extracted name declared) reading.child other.child
  items : List.Forall₂ (Child.Extracted name declared) reading.items other.items
  fields : List.Forall₂ (PropAlike name declared) reading.fields other.fields

/-- Whether a field of a component object reads the same, in the place that it has by its key, but for
what is extracted. -/
structure FieldAlike (field other : String × Json × Reading) : Prop where
  key : other.1 = field.1
  rest : field.1 ∉ childKeys → other.2 = field.2
  text : other.2.1.string? = field.2.1.string?
  props : field.1 = "props" → List.Forall₂ (PropAlike name declared) field.2.2.fields other.2.2.fields
  layout : field.1 = "layout" → Option.Rel (Child.Extracted name declared)
      field.2.2.child other.2.2.child
    ∧ ∀ reference, other.2.2.child = some (.reference reference) →
      field.2.2.child = some (.reference reference)
  children : field.1 = "children" →
    List.Forall₂ (Child.Extracted name declared) field.2.2.items other.2.2.items
  slot : ∀ slot : Slot, field.1 = slot.name →
    Option.Rel (Child.Extracted name declared) field.2.2.child other.2.2.child
  component : field.1 = "component" → field.2.1.string? ≠ some name
    ∧ Option.Rel (fun component => component.Extracted name declared)
      field.2.2.component other.2.2.component

end

variable {name : String} {declared : Component}

/-! ### Props -/

section

variable {field other : String × Json × Option Child} (h : PropAlike name declared field other)
include h

lemma PropAlike.propSlot?_eq : propSlot? other.1 other.2.1 = propSlot? field.1 field.2.1 := by
  rcases h.value with hvalue | ⟨-, hobject, hobject'⟩
  · rw [h.key, hvalue]
  · simp only [propSlot?, h.key, hobject, hobject']

lemma PropAlike.propEvent?_eq : propEvent? other.1 other.2.1 = propEvent? field.1 field.2.1 := by
  rcases h.value with hvalue | ⟨-, hobject, hobject'⟩
  · rw [h.key, hvalue]
  · have hnone : ∀ {key value}, Json.isObject value → propEvent? key value = none := by
      intro key value hobject
      cases value with
      | object fields =>
        simp only [propEvent?]
        split <;> first | rfl | next heq => cases heq
      | _ => cases hobject
    rw [hnone hobject, hnone hobject']

/-- A prop that does not read the same fills a slot. -/
lemma PropAlike.value_cases : other.2.1 = field.2.1
    ∨ (propSlot? field.1 field.2.1).isSome ∧ field.1 ≠ "style" := by
  rcases h.value with hvalue | ⟨hslot, hobject, -⟩
  · exact .inl hvalue
  · refine .inr ⟨?_, fun hstyle => ?_⟩
    · rwa [propSlot?, if_pos hobject]
    · rw [hstyle] at hslot
      revert hslot
      decide

end

/-! ### Lists and lookups -/

lemma filterMap_of_forall₂ {α β γ : Type} {r : α → β → Prop} {xs : List α} {ys : List β}
    (h : List.Forall₂ r xs ys) {f : α → Option γ} {g : β → Option γ}
    (hfg : ∀ x y, r x y → g y = f x) : ys.filterMap g = xs.filterMap f := by
  induction h with
  | nil => rfl
  | cons hr _ ih => rw [List.filterMap_cons, List.filterMap_cons, hfg _ _ hr, ih]

lemma findSome?_of_forall₂ {α β γ : Type} {r : α → β → Prop} {xs : List α} {ys : List β}
    (h : List.Forall₂ r xs ys) {f : α → Option γ} {g : β → Option γ}
    (hfg : ∀ x y, r x y → g y = f x) : ys.findSome? g = xs.findSome? f := by
  induction h with
  | nil => rfl
  | cons hr _ ih => rw [List.findSome?_cons, List.findSome?_cons, hfg _ _ hr, ih]

lemma rel_findSome? {α β γ δ : Type} {r : α → β → Prop} {s : γ → δ → Prop} {xs : List α}
    {ys : List β} (h : List.Forall₂ r xs ys) {f : α → Option γ} {g : β → Option δ}
    (hfg : ∀ x y, r x y → Option.Rel s (f x) (g y)) :
    Option.Rel s (xs.findSome? f) (ys.findSome? g) := by
  induction h with
  | nil => exact .none
  | @cons x y xs ys hr _ ih =>
    rw [List.findSome?_cons, List.findSome?_cons]
    rcases rel_cases (hfg _ _ hr) with ⟨hnone, hnone'⟩ | ⟨a, b, hsome, hsome', hs⟩
    · rw [hnone, hnone']
      exact ih
    · rw [hsome, hsome']
      exact .some hs

namespace Parts

lemma embedded?_eq (parts : Parts) :
    embedded? parts = (parts.get? "component").bind fun (value, reading) =>
      match value.string? with
      | some id => some (.reference { id })
      | none => reading.component.map .inline := by
  simp only [embedded?]
  cases parts.get? "component" with
  | none => rfl
  | some field =>
    obtain ⟨value, reading⟩ := field
    cases value <;> rfl

variable {parts other : Parts} (h : List.Forall₂ (FieldAlike name declared) parts other)
include h

/-- What is found under a key is alike. -/
lemma rel_get? (key : String) :
    Option.Rel (fun field field' => FieldAlike name declared (key, field) (key, field'))
      (parts.get? key) (other.get? key) := by
  induction h with
  | nil => exact .none
  | @cons field field' parts other hfield _ ih =>
    obtain ⟨k, field⟩ := field
    obtain ⟨k', field'⟩ := field'
    obtain rfl : k' = k := hfield.key
    rw [Entries.get?_cons, Entries.get?_cons]
    split
    · next hkey =>
      subst hkey
      exact .some hfield
    · exact ih

lemma get?_eq {key : String} (hkey : key ∉ childKeys) : other.get? key = parts.get? key := by
  rcases rel_cases (rel_get? h key) with ⟨hnone, hnone'⟩ | ⟨field, field', hget, hget', hfield⟩
  · rw [hnone, hnone']
  · rw [hget, hget']
    exact congrArg some (hfield.rest hkey)

lemma child_alike (slot : Slot) :
    Option.Rel (Child.Extracted name declared) (parts.child? slot.name) (other.child? slot.name) := by
  simp only [child?]
  rcases rel_cases (rel_get? h slot.name) with
    ⟨hnone, hnone'⟩ | ⟨field, field', hget, hget', hfield⟩
  · rw [hnone, hnone']
    exact .none
  · rw [hget, hget']
    exact hfield.slot slot rfl

lemma layout_alike :
    Option.Rel (Child.Extracted name declared) (parts.child? "layout") (other.child? "layout")
      ∧ ∀ reference, other.child? "layout" = some (.reference reference) →
        parts.child? "layout" = some (.reference reference) := by
  simp only [child?]
  rcases rel_cases (rel_get? h "layout") with ⟨hnone, hnone'⟩ | ⟨field, field', hget, hget', hfield⟩
  · rw [hnone, hnone']
    exact ⟨.none, fun _ hsome => by cases hsome⟩
  · rw [hget, hget']
    exact hfield.layout rfl

lemma items_alike : List.Forall₂ (Child.Extracted name declared)
    (parts.items "children") (other.items "children") := by
  simp only [items]
  rcases rel_cases (rel_get? h "children") with
    ⟨hnone, hnone'⟩ | ⟨field, field', hget, hget', hfield⟩
  · rw [hnone, hnone']
    exact .nil
  · rw [hget, hget']
    exact hfield.children rfl

lemma props_alike : List.Forall₂ (PropAlike name declared)
    (parts.fields "props") (other.fields "props") := by
  simp only [fields]
  rcases rel_cases (rel_get? h "props") with ⟨hnone, hnone'⟩ | ⟨field, field', hget, hget', hfield⟩
  · rw [hnone, hnone']
    exact .nil
  · rw [hget, hget']
    exact hfield.props rfl

lemma string?_eq (key : String) : other.string? key = parts.string? key := by
  simp only [string?, json?]
  rcases rel_cases (rel_get? h key) with ⟨hnone, hnone'⟩ | ⟨field, field', hget, hget', hfield⟩
  · rw [hnone, hnone']
  · rw [hget, hget']
    exact hfield.text

lemma string?_ne : parts.string? "component" ≠ some name := by
  simp only [string?, json?]
  rcases rel_cases (rel_get? h "component") with ⟨hnone, -⟩ | ⟨field, field', hget, -, hfield⟩
  · rw [hnone]
    exact (Option.some_ne_none name).symm
  · rw [hget]
    exact (hfield.component rfl).1

lemma ownProps_eq : ownProps (other.fields "props") = ownProps (parts.fields "props") := by
  refine filterMap_of_forall₂ (props_alike h) fun field field' hprop => ?_
  rcases hprop.value_cases with hvalue | ⟨hslot, -⟩
  · simp only [hprop.key, hvalue]
  · have hslot' := hslot
    rw [← hprop.propSlot?_eq] at hslot'
    dsimp only
    rw [if_pos (.inl hslot'), if_pos (.inl hslot)]

lemma foldedProps_eq (own : Props) : foldedProps own other = foldedProps own parts := by
  refine filterMap_of_forall₂ h fun field field' hfield => ?_
  by_cases hkey : field.1 ∈ childKeys
  · have hreserved : field.1 ∈ reservedKeys := by
      revert hkey
      simp only [childKeys, reservedKeys, List.mem_cons, List.not_mem_nil, or_false]
      tauto
    have hreserved' : field'.1 ∈ reservedKeys := hfield.key ▸ hreserved
    dsimp only
    rw [if_pos (.inl hreserved'), if_pos (.inl hreserved)]
  · simp only [hfield.key, hfield.rest hkey]

lemma propStyle_eq :
    ((other.fields "props").findSome? fun (key, value, _) =>
        if key = "style" then StyleRef.ofJson? value else none)
      = (parts.fields "props").findSome? fun (key, value, _) =>
        if key = "style" then StyleRef.ofJson? value else none := by
  refine findSome?_of_forall₂ (props_alike h) fun field field' hprop => ?_
  rcases hprop.value_cases with hvalue | ⟨-, hstyle⟩
  · simp only [hprop.key, hvalue]
  · simp only [hprop.key, hstyle, if_false]

lemma readInteractions_eq : readInteractions other = readInteractions parts := by
  have hprops : ((other.fields "props").filterMap fun (key, value, _) => propEvent? key value)
      = (parts.fields "props").filterMap fun (key, value, _) => propEvent? key value :=
    filterMap_of_forall₂ (props_alike h) fun _ _ hprop => hprop.propEvent?_eq
  have hdeclared : other.fields "interactions" = parts.fields "interactions" := by
    simp only [fields, get?_eq h (show "interactions" ∉ childKeys by decide)]
  simp only [readInteractions, hprops, hdeclared]

lemma placement_eq : other.placement = parts.placement := by
  simp only [placement, json?, get?_eq h (show "row" ∉ childKeys by decide),
    get?_eq h (show "column" ∉ childKeys by decide)]

lemma slot_alike (slot : Slot) :
    Option.Rel (Child.Extracted name declared) (slotChild? parts slot) (slotChild? other slot) := by
  refine rel_or (child_alike h slot) (rel_findSome? (props_alike h) fun field field' hprop => ?_)
  dsimp only
  rw [hprop.propSlot?_eq]
  split
  · exact hprop.child
  · exact .none

lemma embedded_alike :
    Option.Rel (Child.Extracted name declared) (embedded? parts) (embedded? other) := by
  rw [embedded?_eq, embedded?_eq]
  rcases rel_cases (rel_get? h "component") with
    ⟨hnone, hnone'⟩ | ⟨⟨value, reading⟩, ⟨value', reading'⟩, hget, hget', hfield⟩
  · rw [hnone, hnone']
    exact .none
  · rw [hget, hget']
    obtain ⟨hname, hcomponent⟩ := hfield.component rfl
    have htext : value'.string? = value.string? := hfield.text
    simp only [Option.bind_some, htext]
    split
    · next id hid => exact .some (.reference fun heq => hname (hid.trans (congrArg some heq)))
    · exact rel_map hcomponent fun _ _ hr => hr.inline

end Parts

/-! ### Components and children -/

/-- Fields that read alike declare components that are the same, but for what is extracted. -/
theorem Component.extracted_ofParts {parts other : Parts}
    (h : List.Forall₂ (FieldAlike name declared) parts other) :
    (ofParts parts).Extracted name declared (ofParts other) where
  bare := by
    simp only [bare, ofParts, Parts.string?_eq h, Parts.ownProps_eq h, Parts.foldedProps_eq h,
      contentProp, Parts.style?, Parts.json?, Parts.get?_eq h (show "style" ∉ childKeys by decide),
      Parts.propStyle_eq h, Parts.readInteractions_eq h, Parts.placement_eq h]
  layout := by
    obtain ⟨hrel, hkeeps⟩ := Parts.layout_alike h
    simp only [layoutChildren, ofParts]
    rcases rel_cases hrel with ⟨hnone, hnone'⟩ | ⟨child, child', hsome, hsome', hchild⟩
    · rw [hnone, hnone']
      exact .nil
    · rw [hsome, hsome'] at hkeeps ⊢
      cases hchild with
      | reference hne => exact .cons (.reference hne) .nil
      | «inline» bare layout children slots => exact children
      | here => cases hkeeps _ rfl
  children := Parts.items_alike h
  slots := fun slot => by
    cases slot with
    | content => exact rel_or (Parts.embedded_alike h) (Parts.slot_alike h .content)
    | header => exact Parts.slot_alike h .header
    | footer => exact Parts.slot_alike h .footer
    | template => exact Parts.slot_alike h .template
    | emptyView => exact Parts.slot_alike h .emptyView

/-- What stands for its content does so on both sides. -/
lemma Component.Extracted.unwrapped {component other : Component}
    (h : component.Extracted name declared other) :
    Child.Extracted name declared component.unwrapped other.unwrapped := by
  have hitems : other.prop? "items" = component.prop? "items" :=
    (congrArg (Component.prop? · "items") h.bare :)
  have hcontent : Child.Extracted name declared
      (component.slots.content.getD (.inline component)) (other.slots.content.getD (.inline other)) := by
    rcases rel_cases (h.slots .content) with ⟨hnone, hnone'⟩ | ⟨child, child', hsome, hsome', hchild⟩
    · rw [show component.slots.content = none from hnone,
        show other.slots.content = none from hnone']
      exact h.inline
    · rw [show component.slots.content = some child from hsome,
        show other.slots.content = some child' from hsome']
      exact hchild
  rw [Component.unwrapped_eq, Component.unwrapped_eq]
  by_cases hbare : component.type = .dataTemplate ∧ component.prop? "items" = none
  · rw [if_pos hbare, if_pos (by rwa [h.type, hitems])]
    exact hcontent
  · rw [if_neg hbare, if_neg (by rwa [h.type, hitems])]
    exact h.inline

/-- What is not a reference to the name is a child that is the same but for what is extracted. -/
lemma Child.extracted_ofParts? {parts other : Parts}
    (h : List.Forall₂ (FieldAlike name declared) parts other)
    (hparts : (parts.string? "type").isSome ∨ other = parts) :
    Option.Rel (Child.Extracted name declared) (ofParts? parts) (ofParts? other) := by
  simp only [ofParts?, Parts.string?_eq h]
  split
  · exact .some (Component.extracted_ofParts h).unwrapped
  · next id htype hid =>
    rcases hparts with hsome | rfl
    · rw [htype] at hsome
      cases hsome
    · exact .some (.reference fun heq => Parts.string?_ne h (hid.trans (congrArg some heq)))
  · exact .none

/-! ### Values without the name -/

lemma FieldAlike.of_reading {key : String} {value : Json} {reading : Reading}
    (h : reading.Alike name declared reading) (hname : value.string? ≠ some name) :
    FieldAlike name declared (key, value, reading) (key, value, reading) where
  key := rfl
  rest := fun _ => rfl
  text := rfl
  props := fun _ => h.fields
  layout := fun _ => ⟨h.child, fun _ => id⟩
  children := fun _ => h.items
  slot := fun _ _ => h.child
  component := fun _ => ⟨hname, h.component⟩

lemma PropAlike.of_reading {key : String} {value : Json} {reading : Reading}
    (h : reading.Alike name declared reading) :
    PropAlike name declared (key, value, reading.child) (key, value, reading.child) where
  key := rfl
  value := .inl rfl
  child := h.child

namespace Json

lemma string?_ne {value : Json} (hname : name ∉ value.texts) : value.string? ≠ some name := by
  intro htext
  cases value with
  | string text =>
    cases htext
    exact hname (List.mem_singleton_self _)
  | _ => cases htext

mutual
/-- A value without the name reads the same on both sides. -/
theorem alike_reading (value : Json) (hname : name ∉ value.texts) :
    value.reading.Alike name declared value.reading := by
  match value with
  | null => exact ⟨.none, .none, .nil, .nil⟩
  | bool b => exact ⟨.none, .none, .nil, .nil⟩
  | number n => exact ⟨.none, .none, .nil, .nil⟩
  | string text => exact ⟨.none, .none, .nil, .nil⟩
  | array items => exact ⟨.none, .none, alike_readItems items hname, .nil⟩
  | object fields =>
    have hfields := alike_readFields fields hname
    exact ⟨.some (Component.extracted_ofParts hfields), Child.extracted_ofParts? hfields (.inr rfl),
      .nil, alike_readProps fields hname⟩

theorem alike_readItems (items : List Json) (hname : name ∉ textsOfItems items) :
    List.Forall₂ (Child.Extracted name declared) (readItems items) (readItems items) := by
  match items with
  | [] => exact .nil
  | item :: items =>
    rw [textsOfItems, List.mem_append, not_or] at hname
    exact List.rel_append (forall₂_toList (alike_reading item hname.1).child)
      (alike_readItems items hname.2)

theorem alike_readFields (fields : List (String × Json)) (hname : name ∉ textsOfFields fields) :
    List.Forall₂ (FieldAlike name declared) (readFields fields) (readFields fields) := by
  match fields with
  | [] => exact .nil
  | (key, value) :: fields =>
    rw [textsOfFields, List.mem_append, List.mem_cons, not_or, not_or] at hname
    exact .cons (.of_reading (alike_reading value hname.1.2) (string?_ne hname.1.2))
      (alike_readFields fields hname.2)

theorem alike_readProps (fields : List (String × Json)) (hname : name ∉ textsOfFields fields) :
    List.Forall₂ (PropAlike name declared)
      ((readFields fields).map fun (key, value, reading) => (key, value, reading.child))
      ((readFields fields).map fun (key, value, reading) => (key, value, reading.child)) := by
  match fields with
  | [] => exact .nil
  | (key, value) :: fields =>
    rw [textsOfFields, List.mem_append, List.mem_cons, not_or, not_or] at hname
    exact .cons (.of_reading (alike_reading value hname.1.2)) (alike_readProps fields hname.2)
end

/-! ### Values in which a component is extracted -/

variable (name declared) in
/-- Whether values read alike as it is said. -/
def Role.Alike : Role → Json → Json → Prop
  | .child, value, value' =>
    Option.Rel (Child.Extracted name declared) (Child.ofJson? value) (Child.ofJson? value')
  | .component, value, value' =>
    List.Forall₂ (FieldAlike name declared) (readFields (value.fields?.getD []))
      (readFields (value'.fields?.getD []))

lemma readFields_append (before after : List (String × Json)) :
    readFields (before ++ after) = readFields before ++ readFields after := by
  simp only [readFields_eq_map, List.map_append]

lemma readItems_append (before after : List Json) :
    readItems (before ++ after) = readItems before ++ readItems after := by
  simp only [readItems_eq_filterMap, List.filterMap_append]

section

variable {key : String} {value value' : Json} {before after : Entries Json}
  (hname : name ∉ textsOfFields (before ++ (key, value) :: after))
include hname

/-- The name does not occur in what is left as it is, nor in what is replaced. -/
lemma fresh_around :
    name ∉ textsOfFields before ∧ name ∉ value.texts ∧ name ∉ textsOfFields after := by
  simp only [mem_textsOfFields] at hname ⊢
  refine ⟨fun ⟨k, v, hmem, h⟩ => hname ⟨k, v, List.mem_append_left _ hmem, h⟩,
    fun h => hname ⟨key, value, by simp, .inr h⟩, fun ⟨k, v, hmem, h⟩ => hname ⟨k, v, ?_, h⟩⟩
  exact List.mem_append_right _ (List.mem_cons_of_mem _ hmem)

/-- Fields read alike if the one that is replaced does. -/
lemma alike_replaced (h : FieldAlike name declared (key, value, value.reading)
      (key, value', value'.reading)) :
    List.Forall₂ (FieldAlike name declared) (readFields (before ++ (key, value) :: after))
      (readFields (before ++ (key, value') :: after)) := by
  obtain ⟨hbefore, -, hafter⟩ := fresh_around hname
  rw [readFields_append, readFields_append]
  exact List.rel_append (alike_readFields before hbefore) (.cons h (alike_readFields after hafter))

/-- So do props. -/
lemma alike_replacedProp (h : PropAlike name declared (key, value, value.reading.child)
      (key, value', value'.reading.child)) :
    List.Forall₂ (PropAlike name declared) (object (before ++ (key, value) :: after)).reading.fields
      (object (before ++ (key, value') :: after)).reading.fields := by
  obtain ⟨hbefore, -, hafter⟩ := fresh_around hname
  simp only [reading, Reading.ofParts, readFields_append, List.map_append]
  exact List.rel_append (alike_readProps before hbefore) (.cons h (alike_readProps after hafter))

end

/-- Objects that read alike declare components that are the same, but for what is extracted. -/
lemma alike_component {value value' : Json} (hobject : value.isObject) (hobject' : value'.isObject)
    (h : Role.component.Alike name declared value value') :
    Option.Rel (fun component => component.Extracted name declared)
      value.reading.component value'.reading.component := by
  cases value with
  | object fields =>
    cases value' with
    | object fields' => exact .some (Component.extracted_ofParts h)
    | _ => cases hobject'
  | _ => cases hobject

/-- A field with a key of its own for what it reads as. -/
lemma slot_ne {slot : Slot} {key : String} (hkey : key ∈ ["props", "layout", "children", "component"]) :
    slot.name ≠ key := by
  rintro rfl
  revert hkey
  cases slot <;> decide

namespace Extracts

variable {body : Entries Json} {role : Role} {value value' : Json}

lemma string?_eq (h : Extracts name body role value value') : value'.string? = value.string? := by
  cases h <;> rfl

lemma isObject (h : Extracts name body role value value') : value.isObject ∧ value'.isObject := by
  cases h <;> exact ⟨rfl, rfl⟩

/-- Values in which a component is extracted read alike. -/
theorem alike (h : Extracts name body role value value') (hname : name ∉ value.texts)
    (hbody : Child.ofJson? (.object body) = some (.inline (Component.ofFields body))) :
    role.Alike name (Component.ofFields body) value value' := by
  induction h with
  | here =>
    rw [Role.Alike, hbody]
    exact .some .here
  | written htype _ ih =>
    refine Child.extracted_ofParts? (ih hname) (.inl ?_)
    simpa [Parts.string?, Entries.string?] using htype
  | @item item item' h items more before after ih =>
    obtain ⟨hitems, hitem, hmore⟩ : name ∉ textsOfItems items ∧ name ∉ item.texts
        ∧ name ∉ textsOfItems more := by
      have hlist : name ∉ textsOfItems (items ++ item :: more) := (fresh_around hname).2.1
      simp only [mem_textsOfItems, List.mem_append, List.mem_cons] at hlist ⊢
      refine ⟨?_, fun h => hlist ⟨item, .inr (.inl rfl), h⟩, ?_⟩
      · rintro ⟨v, hv, h⟩
        exact hlist ⟨v, .inl hv, h⟩
      · rintro ⟨v, hv, h⟩
        exact hlist ⟨v, .inr (.inr hv), h⟩
    have hread : List.Forall₂ (Child.Extracted name (Component.ofFields body))
        (readItems (items ++ item :: more)) (readItems (items ++ item' :: more)) := by
      rw [readItems_append, readItems_append]
      exact List.rel_append (alike_readItems items hitems)
        (List.rel_append (forall₂_toList (ih hitem)) (alike_readItems more hmore))
    exact alike_replaced hname
      { key := rfl
        rest := fun hkey => absurd (by simp [childKeys]) hkey
        text := rfl
        props := fun hkey => absurd hkey (show "children" ≠ "props" by decide)
        layout := fun hkey => absurd hkey (show "children" ≠ "layout" by decide)
        children := fun _ => hread
        slot := fun slot hkey => absurd hkey.symm (slot_ne (by simp))
        component := fun hkey => absurd hkey (show "children" ≠ "component" by decide) }
  | slot h slot before after ih =>
    have hvalue := ih (fresh_around hname).2.1
    exact alike_replaced hname
      { key := rfl
        rest := fun hkey => absurd (by cases slot <;> simp [childKeys, Slot.name]) hkey
        text := h.string?_eq
        props := fun hkey => absurd hkey (slot_ne (by decide))
        layout := fun hkey => absurd hkey (slot_ne (by decide))
        children := fun hkey => absurd hkey (slot_ne (by decide))
        slot := fun _ _ => hvalue
        component := fun hkey => absurd hkey (slot_ne (by decide)) }
  | prop h slot props more before after ih =>
    have hprops : name ∉ textsOfFields (props ++ (slot.name, _) :: more) := (fresh_around hname).2.1
    have hvalue := ih (fresh_around hprops).2.1
    have hslot : (Slot.ofName? slot.name).isSome := by cases slot <;> decide
    exact alike_replaced hname
      { key := rfl
        rest := fun hkey => absurd (by simp [childKeys]) hkey
        text := rfl
        props := fun _ => alike_replacedProp hprops
          ⟨rfl, .inr ⟨hslot, h.isObject.1, h.isObject.2⟩, hvalue⟩
        layout := fun hkey => absurd hkey (show "props" ≠ "layout" by decide)
        children := fun hkey => absurd hkey (show "props" ≠ "children" by decide)
        slot := fun slot hkey => absurd hkey.symm (slot_ne (by simp))
        component := fun hkey => absurd hkey (show "props" ≠ "component" by decide) }
  | layout h hkeeps before after ih =>
    have hvalue := ih (fresh_around hname).2.1
    exact alike_replaced hname
      { key := rfl
        rest := fun hkey => absurd (by simp [childKeys]) hkey
        text := h.string?_eq
        props := fun hkey => absurd hkey (show "layout" ≠ "props" by decide)
        layout := fun _ => ⟨hvalue, hkeeps⟩
        children := fun hkey => absurd hkey (show "layout" ≠ "children" by decide)
        slot := fun slot hkey => absurd hkey.symm (slot_ne (by simp))
        component := fun hkey => absurd hkey (show "layout" ≠ "component" by decide) }
  | @embedded value value' h before after ih =>
    have hfields := ih (fresh_around hname).2.1
    have hcomponent := alike_component h.isObject.1 h.isObject.2 hfields
    exact alike_replaced hname
      { key := rfl
        rest := fun hkey => absurd (by simp [childKeys]) hkey
        text := h.string?_eq
        props := fun hkey => absurd hkey (show "component" ≠ "props" by decide)
        layout := fun hkey => absurd hkey (show "component" ≠ "layout" by decide)
        children := fun hkey => absurd hkey (show "component" ≠ "children" by decide)
        slot := fun slot hkey => absurd hkey.symm (slot_ne (by simp))
        component := fun _ => ⟨string?_ne (fresh_around hname).2.1, hcomponent⟩ }

/-- What is extracted from a declared component leaves a component that is the same otherwise. -/
lemma component (h : Extracts name body .component value value') (hname : name ∉ value.texts)
    (hbody : Child.ofJson? (.object body) = some (.inline (Component.ofFields body))) :
    Option.Rel (fun component => component.Extracted name (Component.ofFields body))
      value.reading.component value'.reading.component :=
  alike_component h.isObject.1 h.isObject.2 (h.alike hname hbody)

end Extracts

end Json

end Wireframe
