import Wireframe.Component.Reading
import Wireframe.Proofs.EntryLookups
import Mathlib.Data.List.Basic

/-!
# Props that are written beside `props`

A prop may be written in `props` or beside it, among the fields of the component. The component is the
same but for the order of its props, and a prop that is written in both places is the one in `props`
(`Component.ofFields_insert`). A header and a footer beside `props` are slots only: what is no object is
skipped there.
-/

namespace Wireframe

/-! ### Keys and values -/

/-- The keys of a component object that have a meaning of their own. -/
def structuralKeys : List String :=
  ["type", "id", "props", "style", "layout", "children", "template", "emptyView", "interactions",
    "row", "column", "component"]

lemma mem_reservedKeys {key : String} : key ∈ reservedKeys
    ↔ key ∈ structuralKeys ∨ key = "content" ∨ key = "header" ∨ key = "footer" := by
  simp only [reservedKeys, structuralKeys, List.mem_cons, List.not_mem_nil, or_false]
  grind

lemma mem_reservedKeys_of_propSlot? {key : String} {value : Json} (h : propSlot? key value ≠ none) :
    key ∈ reservedKeys := by
  obtain ⟨slot, hslot⟩ := Option.ne_none_iff_exists'.mp h
  rw [propSlot?] at hslot
  split at hslot
  · have hname : slot.name = key := by simpa using List.find?_some hslot
    rw [← hname]
    cases slot <;> decide
  · cases hslot

lemma propSlot?_of_not_isObject {value : Json} (h : value.isObject = false) (key : String) :
    propSlot? key value = none := by
  rw [propSlot?, h]
  rfl

lemma Child.ofJson?_of_not_isObject {value : Json} (h : value.isObject = false) :
    Child.ofJson? value = none := by
  cases value with
  | object fields => cases h
  | _ => rfl

/-- Whether a field of `props` is a prop: no slot, no interaction and not the style. -/
structure IsProp (key : String) (value : Json) : Prop where
  slot : propSlot? key value = none
  event : propEvent? key value = none
  style : key ≠ "style"

/-- Whether values under a key are props wherever they are written. -/
structure IsPlain (key : String) : Prop where
  notMem : key ∉ reservedKeys
  event : eventName? key = none

lemma IsPlain.isProp {key : String} (h : IsPlain key) (value : Json) : IsProp key value where
  slot := by
    by_contra hslot
    exact h.notMem (mem_reservedKeys_of_propSlot? hslot)
  event := by
    simp only [propEvent?, h.event]
  style := (ne_of_mem_of_not_mem (by decide) h.notMem).symm

lemma fst_eq_of_kept {skipped : Prop} [Decidable skipped] {key : String} {prop : PropValue}
    {kept : String × PropValue} (h : (if skipped then none else some (key, prop)) = some kept) :
    kept.1 = key := by
  split at h
  · cases h
  · cases h
    rfl

/-! ### Components but for their props -/

namespace Component

/-- The component without its props. -/
def propless (component : Component) : Component :=
  { component with props := [] }

/-- Whether two components are the same up to the order of their props. -/
structure SameUpToOrder (component other : Component) : Prop where
  props : component.props.Perm other.props
  found : ∀ key, component.prop? key = other.prop? key
  rest : component.propless = other.propless

lemma eq_of_propless {component other : Component} (hpropless : component.propless = other.propless)
    (hprops : component.props = other.props) : component = other := by
  cases component
  cases other
  simp only [propless, mk.injEq, true_and] at hpropless hprops ⊢
  exact ⟨hpropless.1, hprops, hpropless.2⟩

end Component

section

variable {parts parts' : Parts} (more : List (String × Json × Option Child))
  (hprops : parts'.fields "props" = parts.fields "props" ++ more)
  (hmore : ∀ field ∈ more, IsProp field.1 field.2.1)
include hprops hmore

/-- What is found in `props` and is no prop is not found in more props. -/
lemma findSome?_props {α : Type} {f : String × Json × Option Child → Option α}
    (hf : ∀ field, IsProp field.1 field.2.1 → f field = none) :
    (parts'.fields "props").findSome? f = (parts.fields "props").findSome? f := by
  have hnone : more.findSome? f = none :=
    List.findSome?_eq_none_iff.mpr fun field hfield => hf field (hmore field hfield)
  rw [hprops, List.findSome?_append, hnone, Option.or_none]

lemma filterMap_props {α : Type} {f : String × Json × Option Child → Option α}
    (hf : ∀ field, IsProp field.1 field.2.1 → f field = none) :
    (parts'.fields "props").filterMap f = (parts.fields "props").filterMap f := by
  have hnil : more.filterMap f = [] :=
    List.filterMap_eq_nil_iff.mpr fun field hfield => hf field (hmore field hfield)
  rw [hprops, List.filterMap_append, hnil, List.append_nil]

/-- Objects that differ in the props only declare components that differ in the props only. -/
lemma Component.propless_ofParts
    (hget : ∀ key ∈ structuralKeys, key ≠ "props" → parts'.get? key = parts.get? key)
    (hslot : ∀ slot : Slot, parts'.child? slot.name = parts.child? slot.name) :
    (ofParts parts').propless = (ofParts parts).propless := by
  have hslots : ∀ slot, slotChild? parts' slot = slotChild? parts slot := by
    intro slot
    rw [slotChild?, slotChild?, hslot, findSome?_props more hprops hmore]
    exact fun field hfield => by simp [hfield.slot]
  have hinteractions : readInteractions parts' = readInteractions parts := by
    have hdeclared : parts'.fields "interactions" = parts.fields "interactions" := by
      rw [Parts.fields, Parts.fields, hget "interactions" (by decide) (by decide)]
    rw [readInteractions, readInteractions, hdeclared, filterMap_props more hprops hmore]
    exact fun _ hfield => hfield.event
  have hembedded : embedded? parts' = embedded? parts := by
    rw [embedded?, embedded?, hget "component" (by decide) (by decide)]
  simp only [propless, ofParts, Parts.string?, Parts.style?, Parts.placement, Parts.json?, Parts.child?,
    Parts.items, hget "type" (by decide) (by decide), hget "style" (by decide) (by decide),
    hget "layout" (by decide) (by decide), hget "children" (by decide) (by decide),
    hget "row" (by decide) (by decide), hget "column" (by decide) (by decide), hslots, hembedded,
    hinteractions]
  -- what is left is the style that `props` may have
  rw [findSome?_props more hprops hmore]
  exact fun _ hfield => if_neg hfield.style

end

/-! ### Folded props -/

lemma foldedProps_readFields (own : Props) (fields : Entries Json) :
    foldedProps own (Json.readFields fields) = List.filterMap (fun (key, value) =>
      if key ∈ reservedKeys ∨ own.contains key = true then none
      else some (key, PropValue.ofJson value)) fields := by
  rw [foldedProps, readFields_eq_map, List.filterMap_map]
  rfl

section

variable {own : Props} {fields : Entries Json} {key : String}

lemma get?_foldedProps_of_eq_none (h : fields.get? key = none) :
    Entries.get? (foldedProps own (Json.readFields fields)) key = none := by
  rw [foldedProps_readFields]
  exact Entries.get?_filterMap_of_eq_none (fun _ _ _ hkept => fst_eq_of_kept hkept) h

lemma get?_foldedProps (h : ¬(key ∈ reservedKeys ∨ own.contains key = true)) :
    Entries.get? (foldedProps own (Json.readFields fields)) key
      = (fields.get? key).map .ofJson := by
  cases hkey : fields.get? key with
  | none => exact get?_foldedProps_of_eq_none hkey
  | some value =>
    rw [foldedProps_readFields]
    exact Entries.get?_filterMap_of_eq_some (fun _ _ _ hkept => fst_eq_of_kept hkept) hkey (if_neg h)

/-- A field that is not folded makes no difference to those that are. -/
lemma foldedProps_insert_of_skipped (h : key ∈ reservedKeys ∨ own.contains key = true) (value : Json) :
    foldedProps own (Json.readFields (fields.insert key value))
      = foldedProps own (Json.readFields fields) := by
  rw [foldedProps_readFields, foldedProps_readFields,
    Entries.filterMap_insert_of_eq_none fun _ => if_pos h]

lemma foldedProps_erase_of_skipped (h : key ∈ reservedKeys ∨ own.contains key = true) :
    foldedProps own (Json.readFields (fields.erase key)) = foldedProps own (Json.readFields fields) := by
  rw [foldedProps_readFields, foldedProps_readFields,
    Entries.filterMap_erase_of_eq_none fun _ => if_pos h]

/-- A new field is folded after the others. -/
lemma foldedProps_insert (h : ¬(key ∈ reservedKeys ∨ own.contains key = true))
    (hnone : fields.get? key = none) (value : Json) :
    foldedProps own (Json.readFields (fields.insert key value))
      = foldedProps own (Json.readFields fields) ++ [(key, .ofJson value)] := by
  rw [foldedProps_readFields, foldedProps_readFields,
    Entries.insert_of_notMem (Entries.get?_eq_none_iff.mp hnone), List.filterMap_append]
  congr 1
  exact List.filterMap_cons_some (if_neg h)

/-- One more own prop makes no difference if no field has its key. -/
lemma foldedProps_append (hnone : fields.get? key = none) (prop : PropValue) :
    foldedProps (own ++ [(key, prop)]) (Json.readFields fields)
      = foldedProps own (Json.readFields fields) := by
  rw [foldedProps_readFields, foldedProps_readFields]
  refine List.filterMap_congr fun field hfield => ?_
  have hne : key ≠ field.1 := by
    rintro rfl
    exact Entries.get?_eq_none_iff.mp hnone (List.mem_map_of_mem hfield)
  simp only [Entries.contains_append_of_ne hne]

end

/-! ### The content as a prop -/

section

variable {props props' : Props} {parts parts' : Parts}

lemma get?_contentProp {key : String} (h : key ≠ "content") :
    Entries.get? (contentProp props parts) key = none := by
  rw [contentProp]
  split
  · split
    · rfl
    · rw [Entries.get?_cons, if_neg h.symm, Entries.get?_nil]
  · rfl

lemma contentProp_congr (hparts : parts'.json? "content" = parts.json? "content")
    (hprops : props'.contains "content" = props.contains "content") :
    contentProp props' parts' = contentProp props parts := by
  rw [contentProp, contentProp, Parts.string?, Parts.string?, hparts, hprops]

lemma contentProp_eq_nil
    (h : (parts.json? "content").bind Json.string? = none ∨ props.contains "content" = true) :
    contentProp props parts = [] := by
  rw [contentProp, Parts.string?]
  split
  · next text htext =>
    rw [htext] at h
    exact if_pos (h.resolve_left (Option.some_ne_none text))
  · rfl

end

/-! ### Props of objects -/

/-- What an object writes under the key of a prop: in `props`, else beside it. -/
def Json.written? (fields : Entries Json) (key : String) : Option Json :=
  ((part fields "props").get? key).or (fields.get? key)

namespace Component

/-- The props that are written in `props`. -/
def explicitProps (fields : Entries Json) : Props :=
  ownProps (Parts.fields (Json.readFields fields) "props")

/-- The props that are written in `props`, and then those that are written beside it. -/
def writtenProps (fields : Entries Json) : Props :=
  explicitProps fields ++ foldedProps (explicitProps fields) (Json.readFields fields)

lemma props_ofFields (fields : Entries Json) : (ofFields fields).props
    = writtenProps fields ++ contentProp (writtenProps fields) (Json.readFields fields) :=
  rfl

lemma explicitProps_eq (fields : Entries Json) :
    explicitProps fields = List.filterMap (fun (key, value) =>
      if (propSlot? key value).isSome ∨ (propEvent? key value).isSome ∨ key = "style" then none
      else some (key, PropValue.ofJson value)) (Json.part fields "props") := by
  rw [explicitProps, fields_readFields, ownProps, List.filterMap_map]
  rfl

variable {fields : Entries Json} {key : String} {value : Json}

lemma get?_explicitProps_of_eq_none (h : (Json.part fields "props").get? key = none) :
    (explicitProps fields).get? key = none := by
  rw [explicitProps_eq]
  exact Entries.get?_filterMap_of_eq_none (fun _ _ _ hkept => fst_eq_of_kept hkept) h

/-- A prop that is written in `props` is found under its key. -/
lemma get?_explicitProps (h : (Json.part fields "props").get? key = some value)
    (hprop : IsProp key value) : (explicitProps fields).get? key = some (.ofJson value) := by
  rw [explicitProps_eq]
  refine Entries.get?_filterMap_of_eq_some (fun _ _ _ hkept => fst_eq_of_kept hkept) h (if_neg ?_)
  simp [hprop.slot, hprop.event, hprop.style]

/-- A prop is what is written under its key. -/
lemma prop?_ofFields (hkey : IsPlain key) (fields : Entries Json) :
    (ofFields fields).prop? key = (Json.written? fields key).map .ofJson := by
  have hcontent : key ≠ "content" := (ne_of_mem_of_not_mem (by decide) hkey.notMem).symm
  rw [prop?, props_ofFields, writtenProps, Entries.get?_append, Entries.get?_append,
    get?_contentProp hcontent, Option.or_none, Json.written?]
  cases hown : (Json.part fields "props").get? key with
  | some value =>
    rw [get?_explicitProps hown (hkey.isProp value)]
    rfl
  | none =>
    have hexplicit := get?_explicitProps_of_eq_none hown
    have hfolded : ¬(key ∈ reservedKeys ∨ (explicitProps fields).contains key = true) := by
      simp [hkey.notMem, Entries.contains, hexplicit]
    rw [hexplicit, get?_foldedProps hfolded, Option.none_or, Option.none_or]

/-- What is written beside `props` does not change those in it. -/
lemma explicitProps_insert (hkey : key ≠ "props") (value : Json) :
    explicitProps (fields.insert key value) = explicitProps fields := by
  rw [explicitProps_eq, explicitProps_eq, Json.part_insert_of_ne fields value hkey]

lemma explicitProps_erase (hkey : key ≠ "props") :
    explicitProps (fields.erase key) = explicitProps fields := by
  rw [explicitProps_eq, explicitProps_eq, Json.part, Json.part, Entries.get?_erase, if_neg hkey.symm]

/-- The fields with one more in their `props`. -/
def addProp (fields : Entries Json) (key : String) (value : Json) : Entries Json :=
  fields.insert "props" (.object ((Json.part fields "props").insert key value))

lemma part_addProp (h : (Json.part fields "props").get? key = none) (value : Json) :
    Json.part (addProp fields key value) "props" = Json.part fields "props" ++ [(key, value)] := by
  rw [addProp, Json.part_insert_self, Entries.insert_of_notMem (Entries.get?_eq_none_iff.mp h)]

lemma explicitProps_addProp (h : (Json.part fields "props").get? key = none)
    (hprop : IsProp key value) :
    explicitProps (addProp fields key value) = explicitProps fields ++ [(key, .ofJson value)] := by
  rw [explicitProps_eq, explicitProps_eq, part_addProp h, List.filterMap_append]
  congr 1
  refine List.filterMap_cons_some (if_neg ?_)
  simp [hprop.slot, hprop.event, hprop.style]

/-! ### Fields beside `props` -/

/-- A value that is no object says nothing beside `props` but what is in the props. -/
lemma propless_insert (hkey : key ∉ structuralKeys) (hvalue : value.isObject = false) :
    (ofFields (fields.insert key value)).propless = (ofFields (fields.erase key)).propless := by
  have hget : ∀ other, key ≠ other →
      (fields.insert key value).get? other = (fields.erase key).get? other := by
    intro other hother
    rw [Entries.get?_insert_of_ne fields value hother, Entries.get?_erase, if_neg hother.symm]
  have hne : ∀ other ∈ structuralKeys, key ≠ other :=
    fun other hother => (ne_of_mem_of_not_mem hother hkey).symm
  refine propless_ofParts [] ?_ nofun (fun other hother _ => ?_) fun slot => ?_
  · rw [fields_readFields, fields_readFields, Json.part, Json.part,
      hget "props" (hne _ (by decide)), List.append_nil]
  · rw [get?_readFields, get?_readFields, hget other (hne other hother)]
  · rw [child_readFields, child_readFields]
    by_cases hslot : key = slot.name
    · rw [← hslot, Entries.get?_insert_self, Option.bind_some, Child.ofJson?_of_not_isObject hvalue,
        Entries.get?_erase, if_pos rfl, Option.bind_none]
    · rw [hget _ hslot]

/-- What is not folded makes no difference to the props, unless it is a text that is the content. -/
lemma props_insert_of_skipped (hkey : key ≠ "props")
    (hskipped : key ∈ reservedKeys ∨ (explicitProps fields).contains key = true)
    (hcontent : key = "content" →
      value.string? = none ∨ (explicitProps fields).contains key = true) :
    (ofFields (fields.insert key value)).props = (ofFields (fields.erase key)).props := by
  have hwritten : writtenProps (fields.insert key value) = writtenProps (fields.erase key) := by
    rw [writtenProps, writtenProps, explicitProps_insert hkey, explicitProps_erase hkey,
      foldedProps_insert_of_skipped hskipped, foldedProps_erase_of_skipped hskipped]
  rw [props_ofFields, props_ofFields, hwritten]
  congr 1
  by_cases hname : key = "content"
  · subst hname
    rw [contentProp_eq_nil, contentProp_eq_nil]
    · rw [json_readFields, Entries.get?_erase, if_pos rfl]
      exact .inl rfl
    · rw [json_readFields, Entries.get?_insert_self]
      refine (hcontent rfl).imp_right fun hcontains => ?_
      rw [writtenProps, explicitProps_erase hkey, Entries.contains_append, hcontains, Bool.true_or]
  · refine contentProp_congr ?_ rfl
    rw [json_readFields, json_readFields, Entries.get?_insert_of_ne fields value hname,
      Entries.get?_erase, if_neg (Ne.symm hname)]

/-- Beside a prop in `props`, a field with its key makes no difference. -/
lemma ofFields_insert_of_isProp {own : Json} (hkey : key ∉ structuralKeys)
    (hvalue : value.isObject = false) (hown : (Json.part fields "props").get? key = some own)
    (hprop : IsProp key own) :
    ofFields (fields.insert key value) = ofFields (fields.erase key)
      ∧ (ofFields (fields.insert key value)).prop? key = some (.ofJson own) := by
  have hget := get?_explicitProps hown hprop
  have hcontains : (explicitProps fields).contains key = true := by
    rw [Entries.contains, hget]
    rfl
  have hne : key ≠ "props" := (ne_of_mem_of_not_mem (by decide) hkey).symm
  refine ⟨eq_of_propless (propless_insert hkey hvalue)
    (props_insert_of_skipped hne (.inr hcontains) fun _ => .inr hcontains), ?_⟩
  rw [prop?, props_ofFields, writtenProps, explicitProps_insert hne, Entries.get?_append,
    Entries.get?_append, hget]
  rfl

/-! ### New props -/

lemma propless_addProp (h : (Json.part fields "props").get? key = none) (hprop : IsProp key value) :
    (ofFields (addProp fields key value)).propless = (ofFields fields).propless := by
  have hget : ∀ other, other ≠ "props" → (addProp fields key value).get? other = fields.get? other :=
    fun other hother => Entries.get?_insert_of_ne fields _ hother.symm
  refine propless_ofParts [(key, value, Child.ofJson? value)] ?_ ?_ (fun other _ hne => ?_)
    fun slot => ?_
  · rw [fields_readFields, fields_readFields, part_addProp h, List.map_append]
    rfl
  · rintro field hfield
    rw [List.mem_singleton.mp hfield]
    exact hprop
  · rw [get?_readFields, get?_readFields, hget other hne]
  · rw [child_readFields, child_readFields, hget]
    cases slot <;> decide

section

variable (hnone : (Json.part fields "props").get? key = none) (hbeside : fields.get? key = none)
include hnone hbeside

/-- A new prop beside `props` comes after all that are there. -/
lemma props_insert (hkey : key ∉ structuralKeys) (hheader : key ≠ "header") (hfooter : key ≠ "footer")
    (hcontent : key = "content" → ∃ text, value = .string text ∧ Binding.parse text = .literal text) :
    (ofFields (fields.insert key value)).props = writtenProps fields ++ [(key, .ofJson value)]
      ++ contentProp (writtenProps fields) (Json.readFields fields) := by
  have hne : key ≠ "props" := (ne_of_mem_of_not_mem (by decide) hkey).symm
  have hexplicit : (explicitProps fields).contains key = false := by
    rw [Entries.contains, get?_explicitProps_of_eq_none hnone]
    rfl
  rw [props_ofFields, writtenProps, explicitProps_insert hne]
  by_cases hname : key = "content"
  · -- A content is not folded: it is a prop as what `contentProp` adds.
    obtain ⟨text, rfl, hparse⟩ := hcontent hname
    subst hname
    have hnil : contentProp (writtenProps fields) (Json.readFields fields) = [] := by
      refine contentProp_eq_nil (.inl ?_)
      rw [json_readFields, hbeside]
      rfl
    have hwritten : (writtenProps fields).contains "content" = false := by
      rw [writtenProps, Entries.contains_append, hexplicit, Entries.contains,
        get?_foldedProps_of_eq_none hbeside]
      rfl
    rw [foldedProps_insert_of_skipped (.inl (by decide)), ← writtenProps, hnil, List.append_nil,
      contentProp, Parts.string?, json_readFields, Entries.get?_insert_self, PropValue.ofJson, hparse]
    simp [Json.string?, hwritten]
  · have hfolded : ¬(key ∈ reservedKeys ∨ (explicitProps fields).contains key = true) := by
      simp [mem_reservedKeys, hkey, hname, hheader, hfooter, hexplicit]
    rw [foldedProps_insert hfolded hbeside, ← List.append_assoc, ← writtenProps]
    congr 1
    refine contentProp_congr ?_ (Entries.contains_append_of_ne hname)
    rw [json_readFields, json_readFields, Entries.get?_insert_of_ne fields value hname]

/-- A new prop in `props` comes after those that are there, and before those beside it. -/
lemma props_addProp (hprop : IsProp key value) :
    (ofFields (addProp fields key value)).props = explicitProps fields ++ [(key, .ofJson value)]
      ++ foldedProps (explicitProps fields) (Json.readFields fields)
      ++ contentProp (writtenProps fields) (Json.readFields fields) := by
  have hcontent : (addProp fields key value).get? "content" = fields.get? "content" :=
    Entries.get?_insert_of_ne fields _ (by decide)
  have hfolded : foldedProps (explicitProps fields ++ [(key, .ofJson value)])
        (Json.readFields (addProp fields key value))
      = foldedProps (explicitProps fields) (Json.readFields fields) := by
    rw [addProp, foldedProps_insert_of_skipped (.inl (by decide)), foldedProps_append hbeside]
  rw [props_ofFields, writtenProps, explicitProps_addProp hnone hprop, hfolded]
  congr 1
  by_cases hname : key = "content"
  · subst hname
    rw [contentProp_eq_nil, contentProp_eq_nil]
    · rw [json_readFields, hbeside]
      exact .inl rfl
    · rw [json_readFields, hcontent, hbeside]
      exact .inl rfl
  · refine contentProp_congr ?_ ?_
    · rw [json_readFields, json_readFields, hcontent]
    · rw [Entries.contains_append, Entries.contains_append_of_ne hname, writtenProps,
        Entries.contains_append]

/-- A prop that is written nowhere yet gives the same component beside `props` as in it. -/
lemma sameUpToOrder_insert (hkey : key ∉ structuralKeys) (hvalue : value.isObject = false)
    (hheader : key ≠ "header") (hfooter : key ≠ "footer") (hevent : propEvent? key value = none)
    (hcontent : key = "content" → ∃ text, value = .string text ∧ Binding.parse text = .literal text) :
    SameUpToOrder (ofFields (fields.insert key value)) (ofFields (addProp fields key value)) := by
  have hprop : IsProp key value :=
    ⟨propSlot?_of_not_isObject hvalue key, hevent, (ne_of_mem_of_not_mem (by decide) hkey).symm⟩
  have hinsert := props_insert hnone hbeside hkey hheader hfooter hcontent
  have hadd := props_addProp hnone hbeside hprop
  refine ⟨?_, fun asked => ?_, ?_⟩
  · rw [hinsert, hadd, writtenProps]
    refine List.Perm.append_right _ ?_
    rw [List.append_assoc, List.append_assoc]
    exact List.perm_append_comm.append_left _
  · rw [prop?, prop?, hinsert, hadd, writtenProps]
    exact Entries.get?_move (get?_foldedProps_of_eq_none hbeside) _ _ _
  · rw [propless_insert hkey hvalue, Entries.erase_of_get?_eq_none hbeside, propless_addProp hnone hprop]

end

/-- What a value that is no object says beside `props`, under a key without a meaning of its own.

A header and a footer are skipped. Under any other key that is new, the component is the same as if the
value were written in `props`, up to the order of the props; for this the value has to be no interaction,
and as a content a plain text. Where `props` have a value under the key too, that one decides, unless it
is an interaction, or a slot while the other is a text. -/
theorem ofFields_insert (fields : Entries Json) {key : String} {value : Json}
    (hkey : key ∉ structuralKeys) (hvalue : value.isObject = false) :
    (key = "header" ∨ key = "footer" →
        ofFields (fields.insert key value) = ofFields (fields.erase key))
      ∧ (key ≠ "header" → key ≠ "footer" → fields.get? key = none →
        (Json.part fields "props").get? key = none → propEvent? key value = none →
        (key = "content" → ∃ text, value = .string text ∧ Binding.parse text = .literal text) →
        SameUpToOrder (ofFields (fields.insert key value))
          (ofFields (fields.insert "props" (.object ((Json.part fields "props").insert key value)))))
      ∧ ∀ own, (Json.part fields "props").get? key = some own → propEvent? key own = none →
        ((propSlot? key own).isSome → value.string? = none) →
        ofFields (fields.insert key value) = ofFields (fields.erase key)
          ∧ (propSlot? key own = none →
            (ofFields (fields.insert key value)).prop? key = some (.ofJson own)) := by
  have hne : key ≠ "props" := (ne_of_mem_of_not_mem (by decide) hkey).symm
  refine ⟨fun hside => ?_, fun hheader hfooter hbeside hnone hevent hcontent => ?_,
    fun own hown hevent htext => ?_⟩
  · have hcontent : key ≠ "content" := by
      rcases hside with rfl | rfl <;> decide
    have hreserved : key ∈ reservedKeys := mem_reservedKeys.mpr (.inr (.inr hside))
    exact eq_of_propless (propless_insert hkey hvalue)
      (props_insert_of_skipped hne (.inl hreserved) fun heq => absurd heq hcontent)
  · exact sameUpToOrder_insert hnone hbeside hkey hvalue hheader hfooter hevent hcontent
  · by_cases hslot : propSlot? key own = none
    · obtain ⟨heq, hprop⟩ := ofFields_insert_of_isProp hkey hvalue hown
        ⟨hslot, hevent, (ne_of_mem_of_not_mem (by decide) hkey).symm⟩
      exact ⟨heq, fun _ => hprop⟩
    · have hreserved := mem_reservedKeys_of_propSlot? hslot
      have hnotext := htext (Option.isSome_iff_ne_none.mpr hslot)
      exact ⟨eq_of_propless (propless_insert hkey hvalue)
        (props_insert_of_skipped hne (.inl hreserved) fun _ => .inl hnotext),
        fun hprop => absurd hprop hslot⟩

/-- A header of a border that is skipped, a bound text that is new, and a gap that `props` have too. -/
theorem ofFields_insert_label :
    ofFields [("type", .string "Border"), ("header", .string "Title")]
        = ofFields [("type", .string "Border")]
      ∧ SameUpToOrder
        (ofFields [("type", .string "Label"), ("icon", .string "star"),
          ("text", .string "\x7bbinding name\x7d")])
        (ofFields [("type", .string "Label"), ("icon", .string "star"),
          ("props", .object [("text", .string "\x7bbinding name\x7d")])])
      ∧ ofFields [("type", .string "Grid"), ("props", .object [("gap", .natural 4)]), ("gap", .natural 8)]
        = ofFields [("type", .string "Grid"), ("props", .object [("gap", .natural 4)])]
      ∧ (ofFields [("type", .string "Grid"), ("props", .object [("gap", .natural 4)]),
        ("gap", .natural 8)]).prop? "gap" = some (.value (.natural 4)) := by
  have hheader := (@ofFields_insert [("type", .string "Border")] "header" (.string "Title")
    (by decide) rfl).1 (.inl rfl)
  have htext := (@ofFields_insert [("type", .string "Label"), ("icon", .string "star")] "text"
    (.string "\x7bbinding name\x7d") (by decide) rfl).2.1 (by decide) (by decide) rfl rfl rfl nofun
  have hgap := (@ofFields_insert [("type", .string "Grid"), ("props", .object [("gap", .natural 4)])]
    "gap" (.natural 8) (by decide) rfl).2.2 (.natural 4) rfl rfl nofun
  exact ⟨hheader, htext, hgap.1, hgap.2 rfl⟩

/-- A header of a border: it is a prop in `props` only. -/
theorem not_sameUpToOrder_border :
    "header" ∉ structuralKeys ∧ (Json.string "Title").isObject = false
      ∧ Entries.get? [("type", Json.string "Border")] "header" = none
      ∧ (Json.part [("type", .string "Border")] "props").get? "header" = none
      ∧ ¬SameUpToOrder (ofFields [("type", .string "Border"), ("header", .string "Title")])
        (ofFields [("type", .string "Border"), ("props", .object [("header", .string "Title")])]) := by
  refine ⟨by decide, rfl, rfl, rfl, fun hsame => ?_⟩
  have hfound := congrArg Option.isSome (hsame.found "header")
  cases hfound

end Component

end Wireframe
