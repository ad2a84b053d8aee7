import Wireframe.Proofs.BoundControls
import Wireframe.Proofs.Loading
import Wireframe.Proofs.Nesting

/-!
# Where props come from

A document that is loaded has only props that were read, from JSON values without repeated keys or as
plain texts (`Document.allRead_ofJson?`). Drawing follows references and lays their props over those of
components, and makes no others up (`Stage.Placed.allRead`). So the place in the state that a control of
a screen is bound to was read from a text, and the text that the control's target holds reads as that
place again.
-/

namespace Wireframe

lemma Entries.mem_overlay {α : Type} {entries other : Entries α} {entry : String × α}
    (h : entry ∈ Entries.overlay entries other) : entry ∈ entries ∨ entry ∈ other := by
  induction other generalizing entries with
  | nil => exact .inl h
  | cons first other ih =>
    rcases ih h with hinsert | hother
    · rcases Entries.mem_insert hinsert with rfl | hentry
      · exact .inr List.mem_cons_self
      · exact .inl hentry
    · exact .inr (List.mem_cons_of_mem _ hother)

/-- Whether a prop was read: from a JSON value in which no object has a key twice, or as a text that
stands for itself. -/
def PropValue.IsRead (prop : PropValue) : Prop :=
  (∃ value : Json, value.hasDistinctKeys = true ∧ prop = ofJson value)
    ∨ ∃ text, prop = binding (.literal text)

/-- A place in the state that was read is what its source reads as. -/
lemma PropValue.IsRead.parse_source {path : Path} {source : String}
    (h : (binding (.state path source)).IsRead) : Binding.parse source = .state path source := by
  rcases h with ⟨value, -, hvalue⟩ | ⟨text, htext⟩
  · cases value with
    | string text =>
      simp only [ofJson, binding.injEq] at hvalue
      obtain rfl : source = text :=
        (congrArg Binding.source hvalue).trans (Binding.source_parse text)
      exact hvalue.symm
    | _ => cases hvalue
  · cases htext

/-- Whether all props are read that a child has or overrides, and those of the children inside. -/
inductive Child.AllRead : Child → Prop where
  | reference {reference : Reference} (props : ∀ entry ∈ reference.props, entry.2.IsRead) :
      AllRead (.reference reference)
  | inline {component : Component} (props : ∀ entry ∈ component.props, entry.2.IsRead)
      (layout : ∀ child ∈ component.layout, AllRead child)
      (children : ∀ child ∈ component.children, AllRead child)
      (slots : ∀ slot, ∀ child ∈ component.slots.get? slot, AllRead child) :
      AllRead (.inline component)

namespace Child.AllRead

variable {component : Component}

/-- What a component contains is read with it, also if it is in the layout. -/
lemma of_contains (h : (Child.inline component).AllRead) {child : Child}
    (hchild : component.Contains child) : child.AllRead := by
  cases h with
  | «inline» props layout children slots =>
    rcases hchild with hchild | ⟨slot, hslot⟩
    · rcases List.mem_append.mp hchild with hlayout | hchild
      · simp only [Component.layoutChildren] at hlayout
        split at hlayout
        · next inner hinner =>
          cases layout _ hinner with
          | «inline» _ _ children _ => exact children child hlayout
        · next reference hreference =>
          rw [List.mem_singleton.mp hlayout]
          exact layout _ hreference
        · cases hlayout
      · exact children child hchild
    · exact slots slot child hslot

lemma unwrapped (h : (Child.inline component).AllRead) : component.unwrapped.AllRead := by
  have hcontent : (component.slots.content.getD (.inline component)).AllRead := by
    cases hslot : component.slots.content with
    | none => exact h
    | some content => exact h.of_contains (.inr ⟨.content, hslot⟩)
  unfold Component.unwrapped
  split_ifs
  · exact hcontent
  · exact h

/-- Overrides that are read keep everything read. -/
lemma overridden (h : (Child.inline component).AllRead) {reference : Reference}
    (hreference : (Child.reference reference).AllRead) :
    (Child.inline (component.overridden reference)).AllRead := by
  cases h with
  | «inline» props layout children slots =>
    cases hreference with
    | reference overrides =>
      refine .inline (fun entry hentry => ?_) layout children slots
      rcases Entries.mem_overlay hentry with hentry | hentry
      · exact props entry hentry
      · exact overrides entry hentry

end Child.AllRead

/-! ### Readings -/

/-- Whether everything is read that a reading holds. -/
structure Reading.AllRead (reading : Reading) : Prop where
  component : ∀ component ∈ reading.component, (Child.inline component).AllRead
  child : ∀ child ∈ reading.child, child.AllRead
  items : ∀ child ∈ reading.items, child.AllRead
  fields : ∀ field ∈ reading.fields,
    field.2.1.hasDistinctKeys = true ∧ ∀ child ∈ field.2.2, child.AllRead

/-- Whether everything is read that the fields of an object hold. -/
def Parts.AllRead (parts : Parts) : Prop :=
  ∀ field ∈ parts, field.2.1.hasDistinctKeys = true ∧ field.2.2.AllRead

namespace Parts.AllRead

variable {parts : Parts} (h : parts.AllRead)
include h

lemma reading {key : String} {field : Json × Reading} (hfield : parts.get? key = some field) :
    field.2.AllRead :=
  (h _ (Entries.mem_of_get? hfield)).2

lemma child? (key : String) : ∀ child ∈ parts.child? key, child.AllRead := by
  intro child hchild
  obtain ⟨field, hfield, hchild⟩ := Option.bind_eq_some_iff.mp hchild
  exact (h.reading hfield).child child hchild

lemma items (key : String) : ∀ child ∈ parts.items key, child.AllRead := by
  intro child hchild
  simp only [Parts.items] at hchild
  split at hchild
  · next hfield => exact (h.reading hfield).items child hchild
  · cases hchild

lemma fields (key : String) : ∀ field ∈ parts.fields key,
    field.2.1.hasDistinctKeys = true ∧ ∀ child ∈ field.2.2, child.AllRead := by
  intro field hfield
  simp only [Parts.fields] at hfield
  split at hfield
  · next hparts => exact (h.reading hparts).fields field hfield
  · cases hfield

lemma slotChild? (slot : Slot) : ∀ child ∈ slotChild? parts slot, child.AllRead := by
  intro child hchild
  rcases Option.or_eq_some_iff.mp hchild with hown | ⟨-, hprop⟩
  · exact h.child? slot.name child hown
  · obtain ⟨⟨key, value, inner⟩, hfield, hinner⟩ := List.exists_of_findSome?_eq_some hprop
    dsimp only at hinner
    split at hinner
    · exact (h.fields "props" _ hfield).2 child hinner
    · cases hinner

lemma embedded? : ∀ child ∈ embedded? parts, child.AllRead := by
  intro child hchild
  simp only [Wireframe.embedded?] at hchild
  split at hchild
  · cases hchild
    exact .reference nofun
  · next hfield =>
    obtain ⟨component, hcomponent, rfl⟩ := Option.map_eq_some_iff.mp hchild
    exact (h.reading hfield).component component hcomponent
  · cases hchild

end Parts.AllRead

lemma isRead_ownProps {fields : List (String × Json × Option Child)}
    (h : ∀ field ∈ fields, field.2.1.hasDistinctKeys = true) :
    ∀ entry ∈ ownProps fields, entry.2.IsRead := by
  intro entry hentry
  obtain ⟨⟨key, value, child⟩, hmem, hfield⟩ := List.mem_filterMap.mp hentry
  dsimp only at hfield
  split at hfield
  · cases hfield
  · cases hfield
    exact .inl ⟨value, h _ hmem, rfl⟩

lemma isRead_foldedProps {own : Props} {parts : Parts} (h : parts.AllRead) :
    ∀ entry ∈ foldedProps own parts, entry.2.IsRead := by
  intro entry hentry
  obtain ⟨⟨key, value, reading⟩, hmem, hfield⟩ := List.mem_filterMap.mp hentry
  dsimp only at hfield
  split at hfield
  · cases hfield
  · cases hfield
    exact .inl ⟨value, (h _ hmem).1, rfl⟩

lemma isRead_contentProp {props : Props} {parts : Parts} :
    ∀ entry ∈ contentProp props parts, entry.2.IsRead := by
  intro entry hentry
  simp only [contentProp] at hentry
  split at hentry
  · next text _ =>
    split at hentry
    · cases hentry
    · rw [List.mem_singleton.mp hentry]
      exact .inr ⟨text, rfl⟩
  · cases hentry

lemma Component.allRead_ofParts {parts : Parts} (h : parts.AllRead) :
    (Child.inline (Component.ofParts parts)).AllRead := by
  refine .inline (fun entry hentry => ?_) (h.child? "layout") (h.items "children")
    fun slot child hchild => ?_
  · simp only [ofParts, List.mem_append] at hentry
    rcases hentry with (hown | hfolded) | hcontent
    · exact isRead_ownProps (fun field hfield => (h.fields "props" field hfield).1) entry hown
    · exact isRead_foldedProps h entry hfolded
    · exact isRead_contentProp entry hcontent
  · cases slot with
    | content =>
      rcases Option.or_eq_some_iff.mp hchild with hembedded | ⟨-, hslot⟩
      · exact h.embedded? child hembedded
      · exact h.slotChild? .content child hslot
    | header => exact h.slotChild? .header child hchild
    | footer => exact h.slotChild? .footer child hchild
    | template => exact h.slotChild? .template child hchild
    | emptyView => exact h.slotChild? .emptyView child hchild

lemma Child.allRead_ofParts? {parts : Parts} (h : parts.AllRead) :
    ∀ child ∈ Child.ofParts? parts, child.AllRead := by
  intro child hchild
  simp only [ofParts?] at hchild
  split at hchild
  · cases hchild
    exact (Component.allRead_ofParts h).unwrapped
  · cases hchild
    refine .reference fun entry hentry => ?_
    obtain ⟨field, hfield, rfl⟩ := List.mem_map.mp hentry
    exact .inl ⟨field.2.1, (h.fields "props" field hfield).1, rfl⟩
  · cases hchild

namespace Json

mutual
/-- Whatever a value reads as, its props are read. -/
theorem allRead_reading (value : Json) (h : value.hasDistinctKeys = true) : value.reading.AllRead := by
  match value with
  | null => exact ⟨nofun, nofun, nofun, nofun⟩
  | bool b => exact ⟨nofun, nofun, nofun, nofun⟩
  | number n => exact ⟨nofun, nofun, nofun, nofun⟩
  | string text => exact ⟨nofun, nofun, nofun, nofun⟩
  | array items => exact ⟨nofun, nofun, allRead_readItems items (hasDistinctKeys_array.mp h), nofun⟩
  | object fields =>
    have hparts := allRead_readFields fields (hasDistinctKeys_object.mp h).2
    refine ⟨fun component hcomponent => ?_, Child.allRead_ofParts? hparts, nofun, ?_⟩
    · cases hcomponent
      exact Component.allRead_ofParts hparts
    · intro field hfield
      obtain ⟨part, hpart, rfl⟩ := List.mem_map.mp hfield
      exact ⟨(hparts part hpart).1, (hparts part hpart).2.child⟩

theorem allRead_readItems (items : List Json) (h : ∀ item ∈ items, item.hasDistinctKeys = true) :
    ∀ child ∈ readItems items, child.AllRead := by
  match items with
  | [] => exact nofun
  | item :: items =>
    intro child hchild
    rcases List.mem_append.mp hchild with hitem | hitems
    · exact (allRead_reading item (h item List.mem_cons_self)).child child
        (Option.mem_toList.mp hitem)
    · exact allRead_readItems items (fun item hitem => h item (List.mem_cons_of_mem _ hitem)) child
        hitems

theorem allRead_readFields (fields : List (String × Json))
    (h : ∀ field ∈ fields, field.2.hasDistinctKeys = true) : Parts.AllRead (readFields fields) := by
  match fields with
  | [] => exact nofun
  | (key, value) :: fields =>
    intro field hfield
    rcases List.mem_cons.mp hfield with rfl | hfield
    · have hvalue : value.hasDistinctKeys = true := h _ List.mem_cons_self
      exact ⟨hvalue, allRead_reading value hvalue⟩
    · exact allRead_readFields fields (fun field hfield => h field (List.mem_cons_of_mem _ hfield))
        field hfield
end

end Json

/-! ### Documents -/

/-- Whether all props of a document are read. -/
structure Document.AllRead (document : Document) : Prop where
  layout : ∀ id page, document.page? id = some page → ∀ child ∈ page.layout, child.AllRead
  component : ∀ id component, document.component? id = some component →
    (Child.inline component).AllRead

lemma allRead_of_mem_readComponents {section? : Option Json} {id : String} {component : Component}
    (hsection : ∀ json ∈ section?, json.hasDistinctKeys = true)
    (h : (id, component) ∈ readComponents section?) : (Child.inline component).AllRead := by
  simp only [readComponents] at h
  split at h
  · next fields =>
    obtain ⟨⟨key, value, reading⟩, hfield, hcomponent⟩ := List.mem_filterMap.mp h
    obtain ⟨component, hcomponent, heq⟩ := Option.map_eq_some_iff.mp hcomponent
    cases heq
    have hvalues := (Json.hasDistinctKeys_object.mp (hsection _ rfl)).2
    exact (Json.allRead_readFields fields hvalues _ hfield).2.component component hcomponent
  · cases h

lemma allRead_of_mem_readPages {section? : Option Json} {id : String} {page : Page}
    (hsection : ∀ json ∈ section?, json.hasDistinctKeys = true)
    (h : (id, page) ∈ readPages section?) : ∀ child ∈ page.layout, child.AllRead := by
  simp only [readPages] at h
  split at h
  · next fields =>
    obtain ⟨⟨key, value⟩, hmem, hpage⟩ := List.mem_filterMap.mp h
    obtain ⟨page, hfields, heq⟩ := Option.map_eq_some_iff.mp hpage
    cases heq
    intro child hchild
    obtain ⟨layout, hlayout, hread⟩ := Option.bind_eq_some_iff.mp hchild
    have hvalue : value.hasDistinctKeys = true :=
      (Json.hasDistinctKeys_object.mp (hsection _ rfl)).2 _ hmem
    cases value with
    | object fields =>
      cases hfields
      exact (Json.allRead_reading layout (Json.hasDistinctKeys_of_get? hvalue hlayout)).child child
        hread
    | _ => cases hfields
  · cases h

/-- All props of a loaded document are read. -/
theorem Document.allRead_ofJson? {json : Json} {document : Document}
    (hjson : json.hasDistinctKeys = true) (h : ofJson? json = .ok document) : document.AllRead := by
  cases json with
  | object root =>
    obtain ⟨declared, tabs, -, -, rfl⟩ := ofJson?_eq_ok.mp h
    have hsection : ∀ key, ∀ json ∈ Entries.get? root key, json.hasDistinctKeys = true :=
      fun _ _ => Json.hasDistinctKeys_of_get? hjson
    refine ⟨fun id page hpage => ?_, fun id component hcomponent => ?_⟩
    · exact allRead_of_mem_readPages (hsection _) (Entries.mem_of_get? hpage)
    · rcases Option.or_eq_some_iff.mp hcomponent with hfound | ⟨-, hfound⟩
      · exact allRead_of_mem_readComponents (hsection _) (Entries.mem_of_get? hfound)
      · exact allRead_of_mem_readComponents (hsection _) (Entries.mem_of_get? hfound)
  | _ => cases h

lemma Document.Loaded.allRead {document : Document} (h : document.Loaded) : document.AllRead := by
  obtain ⟨json, hjson, hload⟩ := h
  exact allRead_ofJson? hjson hload

/-! ### Screens -/

namespace Stage

variable {stage : Stage} {session : Session} (h : stage.document.AllRead)
include h

/-- A child that is read is drawn as a component that is read. -/
lemma allRead_of_resolve? {child : Child} (hchild : child.AllRead) {component : Component}
    (hcomponent : stage.resolve? child = some component) : (Child.inline component).AllRead := by
  cases child with
  | «inline» own =>
    cases hcomponent
    exact hchild
  | reference reference =>
    obtain ⟨declared, hdeclared, rfl⟩ := Option.map_eq_some_iff.mp hcomponent
    exact (h.component _ _ hdeclared).overridden hchild

lemma Begun.allRead {depth : Nat} {cue : Cue} (hbegun : stage.Begun session depth cue) :
    cue.child.AllRead := by
  cases hbegun with
  | page hpage hlayout =>
    obtain ⟨id, -, hfound⟩ := Option.bind_eq_some_iff.mp hpage
    exact h.layout id _ hfound _ hlayout
  | content _ hfound hslot =>
    exact (h.component _ _ hfound).of_contains (.inr ⟨.content, hslot⟩)
  | child _ hfound hchild =>
    exact (h.component _ _ hfound).of_contains (.inl (List.mem_of_getElem? hchild))
  | footer _ hfound hslot =>
    exact (h.component _ _ hfound).of_contains (.inr ⟨.footer, hslot⟩)

/-- Whatever comes to be drawn is read. -/
theorem Placed.allRead {depth : Nat} {cue : Cue} (hplaced : stage.Placed session depth cue) :
    cue.child.AllRead := by
  induction hplaced with
  | begun hbegun => exact Begun.allRead h hbegun
  | inner _ hcomponent hnext ih =>
    exact (allRead_of_resolve? h ih hcomponent).of_contains (Site.contains_of_mem_cues hnext)

end Stage

/-! ### Fields -/

namespace View

variable {props : Props}

lemma mem_of_take {keys : List String} {prop : PropValue} (h : (take keys props).1 = some prop) :
    ∃ key, (key, prop) ∈ props := by
  induction keys generalizing props with
  | nil => cases h
  | cons key keys ih =>
    rcases Option.or_eq_some_iff.mp h with hown | ⟨-, hrest⟩
    · exact ⟨key, Entries.mem_of_get? hown⟩
    · obtain ⟨other, hother⟩ := ih hrest
      exact ⟨other, List.mem_of_mem_filter hother⟩

lemma mem_of_mem_take {keys : List String} {entry : String × PropValue}
    (h : entry ∈ (take keys props).2) : entry ∈ props := by
  induction keys generalizing props with
  | nil => exact h
  | cons key keys ih => exact List.mem_of_mem_filter (ih h)

lemma mem_of_mem_fill {fields : List (Field × List String)} {field : Field} {prop : PropValue}
    (h : (field, prop) ∈ (fill fields props).1) : ∃ key, (key, prop) ∈ props := by
  induction fields generalizing props with
  | nil => cases h
  | cons first fields ih =>
    obtain ⟨other, keys⟩ := first
    have hrest : (field, prop) ∈ (fill fields (take keys props).2).1 →
        ∃ key, (key, prop) ∈ props := by
      intro hmem
      obtain ⟨key, hkey⟩ := ih hmem
      exact ⟨key, mem_of_mem_take hkey⟩
    simp only [fill] at h
    split at h
    · next found hfound =>
      rcases List.mem_cons.mp h with heq | h
      · cases heq
        exact mem_of_take hfound
      · exact hrest h
    · exact hrest h

/-- The prop in a field is one of the component's. -/
lemma mem_of_get? {component : Component} {field : Field} {prop : PropValue}
    (h : component.view.get? field = some prop) : ∃ key, (key, prop) ∈ component.props := by
  obtain ⟨before, after, hfields, -⟩ := List.lookup_eq_some_iff.mp h
  refine @mem_of_mem_fill component.props component.type.form.fields field prop ?_
  have hmem : (field, prop) ∈ component.view.fields := by
    rw [hfields]
    exact List.mem_append_right _ List.mem_cons_self
  exact hmem

end View

/-- In a component that is read, the place in the state that a control writes to is the place that its
field is bound to. -/
theorem Site.bound_of_target {site : Site} (h : (Child.inline site.component).AllRead)
    {field : Field} {key : String} (htarget : site.target field = .state key) :
    ∃ path source, site.prop? field = some (.binding (.state path source))
      ∧ Binding.parse source = .state path source ∧ Path.parse key = path := by
  simp only [target] at htarget
  split at htarget
  · next path hpath =>
    cases htarget
    obtain ⟨binding, hbinding, hstate⟩ := Option.bind_eq_some_iff.mp hpath
    obtain ⟨prop, hprop, hbound⟩ := Option.bind_eq_some_iff.mp hbinding
    cases prop with
    | value json => cases hbound
    | binding own =>
      cases hbound
      cases binding with
      | state own source =>
        cases hstate
        obtain ⟨name, hmem⟩ := View.mem_of_get? hprop
        cases h with
        | «inline» props _ _ _ =>
          have hsource := (props _ hmem).parse_source
          exact ⟨path, source, hprop, hsource, Binding.parse_display_of_parse hsource⟩
      | _ => cases hstate
  · cases htarget

end Wireframe
