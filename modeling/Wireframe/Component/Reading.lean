import Wireframe.Component.View

/-!
# Reading components

How JSON values read as components and children. Reading is lenient: parts of the wrong shape are
skipped, so that a wireframe can be previewed while it is written. Each value is read once, after
the values inside it: a reading holds what the value stands for in each place it may be found in.
-/

namespace Wireframe

/-- What a JSON value reads as. -/
structure Reading where
  /-- As a declared component; only objects are. -/
  component : Option Component := none
  /-- As a place in a layout. -/
  child : Option Child := none
  /-- As a list of children; items that are none are skipped. -/
  items : List Child := []
  /-- As props: each with the child it would be in a slot. -/
  fields : List (String × Json × Option Child) := []

/-- The fields of an object with their readings. -/
abbrev Parts := Entries (Json × Reading)

namespace Parts

/-- The value of a field. -/
def json? (parts : Parts) (key : String) : Option Json :=
  (parts.get? key).map (·.1)

/-- The text of a string field. -/
def string? (parts : Parts) (key : String) : Option String :=
  (parts.json? key).bind Json.string?

/-- The child that stands in a field. -/
def child? (parts : Parts) (key : String) : Option Child :=
  (parts.get? key).bind (·.2.child)

/-- The children that a field lists. -/
def items (parts : Parts) (key : String) : List Child :=
  match parts.get? key with
  | some (_, reading) => reading.items
  | none => []

/-- The fields of an object in a field. -/
def fields (parts : Parts) (key : String) : List (String × Json × Option Child) :=
  match parts.get? key with
  | some (_, reading) => reading.fields
  | none => []

/-- The style that a field names or writes out. -/
def style? (parts : Parts) (key : String) : Option StyleRef :=
  (parts.json? key).bind StyleRef.ofJson?

/-- The cell of a surrounding grid. Indices are kept modulo 2^32. -/
def placement (parts : Parts) : Placement :=
  let index (key : String) := ((parts.json? key).bind Json.natural?).map UInt32.ofNat
  { row := index "row", column := index "column" }

end Parts

/-! ### Props -/

/-- The event that a prop such as `onToggled` stands for. -/
def eventName? (key : String) : Option String :=
  match key.toList with
  | 'o' :: 'n' :: c :: cs => if c.isUpper then some (String.ofList (c :: cs)) else none
  | _ => none

/-- The slot a prop fills: one of a slot's name that holds an object. -/
def propSlot? (key : String) (value : Json) : Option Slot :=
  if value.isObject then Slot.ofName? key else none

/-- The event and the action of a prop that is an interaction: an event's name with a text. -/
def propEvent? (key : String) (value : Json) : Option (String × String) :=
  match eventName? key, value with
  | some event, .string action => some (event, action)
  | _, _ => none

/-- The keys of a component object that are not props. -/
def reservedKeys : List String :=
  ["type", "id", "props", "style", "layout", "children", "content", "header", "footer",
    "template", "emptyView", "interactions", "row", "column", "component"]

/-- The props of the `props` object: all but slots, interactions and the style. -/
def ownProps (fields : List (String × Json × Option Child)) : Props :=
  fields.filterMap fun (key, value, _) =>
    if (propSlot? key value).isSome ∨ (propEvent? key value).isSome ∨ key = "style" then none
    else some (key, PropValue.ofJson value)

/-- The props written beside `props`, where they have no entry there. -/
def foldedProps (own : Props) (parts : Parts) : Props :=
  List.filterMap
    (fun (key, value, _) =>
      if key ∈ reservedKeys ∨ own.contains key = true then none
      else some (key, PropValue.ofJson value))
    parts

/-- A `content` that is a text is no slot: it becomes a prop, as a plain text. -/
def contentProp (props : Props) (parts : Parts) : Props :=
  match parts.string? "content" with
  | some text => if props.contains "content" then [] else [("content", .binding (.literal text))]
  | none => []

/-! ### Components -/

/-- The child that `component` puts into the content: a reference by name, or a component. -/
def embedded? (parts : Parts) : Option Child :=
  match parts.get? "component" with
  | some (.string id, _) => some (.reference { id })
  | some (_, reading) => reading.component.map .inline
  | none => none

/-- What stands in a slot by the component's own field, else by a prop. -/
def slotChild? (parts : Parts) (slot : Slot) : Option Child :=
  (parts.child? slot.name).or <|
    (parts.fields "props").findSome? fun (key, value, child) =>
      if propSlot? key value = some slot then child else none

/-- The interactions of the props, and the declared ones over them. -/
def readInteractions (parts : Parts) : Entries String :=
  Entries.overlay
    ((parts.fields "props").filterMap fun (key, value, _) => propEvent? key value)
    ((parts.fields "interactions").filterMap fun (event, value, _) =>
      value.string?.map (event, ·))

/-- The component that an object with these fields declares. -/
def Component.ofParts (parts : Parts) : Component :=
  let own := ownProps (parts.fields "props")
  let props := own ++ foldedProps own parts
  { type := ComponentType.ofName ((parts.string? "type").getD "")
    props := props ++ contentProp props parts
    style := (parts.style? "style").or <|
      (parts.fields "props").findSome? fun (key, value, _) =>
        if key = "style" then StyleRef.ofJson? value else none
    layout := parts.child? "layout"
    children := parts.items "children"
    slots :=
      { content := (embedded? parts).or (slotChild? parts .content)
        header := slotChild? parts .header
        footer := slotChild? parts .footer
        template := slotChild? parts .template
        emptyView := slotChild? parts .emptyView }
    interactions := readInteractions parts
    placement := parts.placement }

/-- The reference that an object with these fields makes to the component `id`. -/
def Reference.ofParts (id : String) (parts : Parts) : Reference :=
  { id
    props := (parts.fields "props").map fun (key, value, _) => (key, PropValue.ofJson value)
    style := parts.style? "style"
    slot := parts.string? "slot"
    placement := parts.placement }

/-- A data template without a list of its own stands for its content. -/
def Component.unwrapped (component : Component) : Child :=
  if component.type = .dataTemplate ∧ component.prop? "items" matches none then
    component.slots.content.getD (.inline component)
  else .inline component

/-- The child that an object with these fields is: a component if it has a type, a reference if it
names a component, else nothing. -/
def Child.ofParts? (parts : Parts) : Option Child :=
  match parts.string? "type", parts.string? "component" with
  | some _, _ => some (Component.ofParts parts).unwrapped
  | none, some id => some (.reference (Reference.ofParts id parts))
  | none, none => none

/-! ### All values -/

/-- The reading of an object. -/
def Reading.ofParts (parts : Parts) : Reading :=
  { component := some (Component.ofParts parts)
    child := Child.ofParts? parts
    fields := List.map (fun (key, value, reading) => (key, value, reading.child)) parts }

namespace Json

mutual
/-- What a value reads as. -/
def reading : Json → Reading
  | array items => { items := readItems items }
  | object fields => Reading.ofParts (readFields fields)
  | _ => {}

/-- The children among the items of an array. -/
def readItems : List Json → List Child
  | [] => []
  | item :: items => (reading item).child.toList ++ readItems items

/-- The fields of an object with their readings. -/
def readFields : List (String × Json) → List (String × Json × Reading)
  | [] => []
  | (key, value) :: fields => (key, value, reading value) :: readFields fields
end

end Json

/-- The component an object with these fields declares. -/
def Component.ofFields (fields : Entries Json) : Component :=
  Component.ofParts (Json.readFields fields)

/-- The child a value is in a layout. -/
def Child.ofJson? (json : Json) : Option Child :=
  json.reading.child

/-! ### Equations -/

theorem get?_readFields (fields : Entries Json) (key : String) :
    Entries.get? (Json.readFields fields) key =
      (fields.get? key).map fun value => (value, value.reading) := by
  induction fields with
  | nil => rfl
  | cons field fields ih =>
    obtain ⟨k, v⟩ := field
    by_cases h : k = key
    · simp [Json.readFields, h]
    · simpa [Json.readFields, h] using ih

theorem readFields_eq_map (fields : Entries Json) :
    Json.readFields fields = List.map (fun (key, value) => (key, value, value.reading)) fields := by
  induction fields with
  | nil => rfl
  | cons field fields ih => rw [Json.readFields, ih, List.map_cons]

theorem fields_readFields (fields : Entries Json) (key : String) :
    Parts.fields (Json.readFields fields) key
      = List.map (fun (key, value) => (key, value, Child.ofJson? value)) (Json.part fields key) := by
  simp only [Parts.fields, get?_readFields, Json.part]
  cases fields.get? key with
  | none => rfl
  | some value =>
    cases value with
    | object props =>
      simp only [Option.map_some, Json.reading, Reading.ofParts, readFields_eq_map, List.map_map]
      rfl
    | _ => rfl

theorem readItems_eq_filterMap (items : List Json) :
    Json.readItems items = items.filterMap Child.ofJson? := by
  induction items with
  | nil => rfl
  | cons item items ih =>
    simp only [Json.readItems, ih, List.filterMap_cons]
    cases h : item.reading.child <;> simp [Child.ofJson?, h]

@[simp] theorem child_readFields (fields : Entries Json) (key : String) :
    Parts.child? (Json.readFields fields) key = (fields.get? key).bind Child.ofJson? := by
  simp only [Parts.child?, get?_readFields, Option.bind_map]
  rfl

@[simp] theorem json_readFields (fields : Entries Json) (key : String) :
    Parts.json? (Json.readFields fields) key = fields.get? key := by
  simp only [Parts.json?, get?_readFields, Option.map_map]
  cases fields.get? key <;> rfl

theorem Component.unwrapped_eq (component : Component) :
    component.unwrapped = if component.type = .dataTemplate ∧ component.prop? "items" = none
      then component.slots.content.getD (.inline component) else .inline component := by
  simp only [unwrapped]
  cases component.prop? "items" <;> simp

/-- An object with a type is a component that is written out, or what that stands for. -/
theorem Child.ofJson?_of_type {fields : Entries Json} {name : String}
    (h : Entries.string? fields "type" = some name) :
    ofJson? (.object fields) = some (Component.ofFields fields).unwrapped := by
  have htype : Parts.string? (Json.readFields fields) "type" = some name := by
    rw [Parts.string?, json_readFields]
    exact h
  simp only [ofJson?, Json.reading, Reading.ofParts, ofParts?, htype]
  rfl

end Wireframe
