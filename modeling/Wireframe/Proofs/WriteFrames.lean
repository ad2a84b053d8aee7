import Wireframe.Proofs.Paths

/-!
# What a write leaves alone

Writing below a path is writing into what stands there, and into null where nothing stands
(`Json.follow_write_append`). So it is settled where two paths part whether a write to one of them is
seen from the other. In an object, in a scalar and where nothing stands it never is. In an array the
two segments may name the same item, and an array that has no item for the segment gives way to an
object, with all its items (`Json.lookup_assign_of_ne`).
-/

namespace Wireframe.Json

variable {items : List Json} {a b : String} {i : Nat} {value : Json} {rest : List String}

/-! ### Beside the place that is written -/

lemma part?_writeField_of_ne (h : a ≠ b) (change : Json → Json) (fields : Entries Json) :
    (writeField change fields a).part? b = fields.get? b :=
  Entries.get?_insert_of_ne fields _ h

/-- In an array, a write to one item is not seen at the others. -/
lemma part?_write_array_of_ne (ha : itemIndex? items a ≠ none)
    (hb : itemIndex? items b ≠ itemIndex? items a) :
    (write value (a :: rest) (array items)).part? b = (array items).part? b := by
  obtain ⟨i, hi⟩ := Option.ne_none_iff_exists'.mp ha
  obtain ⟨item, -, hwrite⟩ := write_array_of_itemIndex? hi value rest
  rw [hwrite, part?_array, part?_array, itemIndex?_set]
  cases hj : itemIndex? items b with
  | none => rfl
  | some j =>
    have hne : i ≠ j := fun heq => hb (by rw [hj, hi, heq])
    rw [Option.bind_some, Option.bind_some, List.getElem?_set_ne hne]

/-- A write is not seen beside the place that is written, unless in an array that has no item there or
the same one for both segments. -/
lemma part?_write_of_ne (h : a ≠ b) {json : Json}
    (hitems : ∀ items, json = array items →
      itemIndex? items a ≠ none ∧ itemIndex? items b ≠ itemIndex? items a) :
    (write value (a :: rest) json).part? b = json.part? b := by
  cases json with
  | array items =>
    obtain ⟨ha, hb⟩ := hitems items rfl
    exact part?_write_array_of_ne ha hb
  | object fields => exact part?_writeField_of_ne h _ fields
  | null | bool _ | number _ | string _ => exact part?_writeField_of_ne h _ []

/-! ### Below a common path -/

lemma follow_append (json : Json) (common rest : List String) :
    json.follow (common ++ rest) = (json.follow common).bind (·.follow rest) := by
  induction common generalizing json with
  | nil => rfl
  | cons segment common ih =>
    rw [List.cons_append, follow_cons, follow_cons, Option.bind_assoc]
    simp only [ih]

/-- Writing below a path is writing into what stands there, and into null if nothing does. -/
theorem follow_write_append (value json : Json) (common rest : List String) :
    (write value (common ++ rest) json).follow common
      = some (write value rest ((json.follow common).getD null)) := by
  induction common generalizing json with
  | nil => rfl
  | cons segment common ih =>
    rw [List.cons_append, follow_cons, part?_write, Option.bind_some, ih, follow_cons]
    congr 2
    cases json.part? segment with
    | some inner => rfl
    | none => cases common <;> rfl

/-- What is read below a path after a write below it. -/
lemma lookup_assign_append (value json : Json) (common rest other : List String) :
    (json.assign ⟨common ++ rest⟩ value).lookup ⟨common ++ other⟩
      = (write value rest ((json.lookup ⟨common⟩).getD null)).follow other := by
  rw [assign, lookup, follow_append, follow_write_append, Option.bind_some, lookup]

/-! ### Paths that part -/

section

variable {json : Json} {common : List String} (value : Json) (rest other : List String)

/-- A write is not seen beside its path, unless in an array that has no item there or the same one for
both segments. -/
lemma lookup_assign_beside (h : a ≠ b)
    (hitems : ∀ items, json.lookup ⟨common⟩ = some (array items) →
      itemIndex? items a ≠ none ∧ itemIndex? items b ≠ itemIndex? items a) :
    (json.assign ⟨common ++ a :: rest⟩ value).lookup ⟨common ++ b :: other⟩
      = json.lookup ⟨common ++ b :: other⟩ := by
  have hplace : ∀ items, (json.lookup ⟨common⟩).getD null = array items →
      json.lookup ⟨common⟩ = some (array items) := by
    intro items hplace
    cases hfound : json.lookup ⟨common⟩ with
    | none =>
      rw [hfound] at hplace
      cases hplace
    | some found =>
      rw [hfound] at hplace
      exact congrArg some hplace
  have hbelow : json.lookup ⟨common ++ b :: other⟩
      = ((json.lookup ⟨common⟩).getD null).follow (b :: other) := by
    rw [lookup, follow_append, lookup]
    cases json.follow common <;> rfl
  rw [lookup_assign_append, hbelow, follow_cons, follow_cons,
    part?_write_of_ne h fun items heq => hitems items (hplace items heq)]

variable {items : List Json} (hplace : json.lookup ⟨common⟩ = some (array items))
include hplace

/-- Where an array gives way to an object, all its items are lost. -/
lemma lookup_assign_of_itemIndex?_eq_none (h : a ≠ b) (ha : itemIndex? items a = none) :
    (∃ fields, (json.assign ⟨common ++ a :: rest⟩ value).lookup ⟨common⟩ = some (object fields))
      ∧ (json.assign ⟨common ++ a :: rest⟩ value).lookup ⟨common ++ b :: other⟩ = none := by
  have hgives := write_array_of_itemIndex?_eq_none ha value rest
  constructor
  · have hwritten := lookup_assign_append value json common (a :: rest) []
    rw [List.append_nil, hplace, Option.getD_some, hgives] at hwritten
    exact ⟨_, hwritten⟩
  · rw [lookup_assign_append, hplace, Option.getD_some, hgives, follow_cons,
      part?_writeField_of_ne h]
    rfl

/-- What is written to an item is read by each segment that names the item. -/
lemma lookup_assign_of_itemIndex?_eq_some (ha : itemIndex? items a = some i)
    (hb : itemIndex? items b = some i) :
    ∃ item, json.lookup ⟨common ++ [b]⟩ = some item
      ∧ (json.assign ⟨common ++ a :: rest⟩ value).lookup ⟨common ++ b :: other⟩
        = (item.assign ⟨rest⟩ value).lookup ⟨other⟩ := by
  obtain ⟨_, item, hitem⟩ := exists_getElem?_of_itemIndex? hb
  refine ⟨item, ?_, ?_⟩
  · rw [lookup, follow_append, ← lookup.eq_1 json ⟨common⟩, hplace, Option.bind_some, follow_cons,
      part?_array, hb, Option.bind_some, hitem]
    rfl
  · rw [lookup_assign_append, hplace, Option.getD_some, follow_cons,
      write_array_of_getElem? (exists_getElem?_of_itemIndex? ha).1 hitem,
      part?_set _ (exists_getElem?_of_itemIndex? hb).1 hitem]
    rfl

end

/-- A write is read at a path that parts from its own as if it had not been made, except where the two
part in an array. If the array has no item where the write goes on, it gives way to an object, and
nothing is read any more; if both segments name one item, what the write makes of this item is read. -/
theorem lookup_assign_of_ne (json value : Json) (common : List String) {a b : String} (h : a ≠ b)
    (rest other : List String) :
    ((∀ items, json.lookup ⟨common⟩ = some (array items) →
        itemIndex? items a ≠ none ∧ itemIndex? items b ≠ itemIndex? items a) →
      (json.assign ⟨common ++ a :: rest⟩ value).lookup ⟨common ++ b :: other⟩
        = json.lookup ⟨common ++ b :: other⟩)
    ∧ ∀ items, json.lookup ⟨common⟩ = some (array items) →
      (itemIndex? items a = none →
        (∃ fields, (json.assign ⟨common ++ a :: rest⟩ value).lookup ⟨common⟩ = some (object fields))
          ∧ (json.assign ⟨common ++ a :: rest⟩ value).lookup ⟨common ++ b :: other⟩ = none)
      ∧ ∀ i, itemIndex? items a = some i → itemIndex? items b = some i →
        ∃ item, json.lookup ⟨common ++ [b]⟩ = some item
          ∧ (json.assign ⟨common ++ a :: rest⟩ value).lookup ⟨common ++ b :: other⟩
            = (item.assign ⟨rest⟩ value).lookup ⟨other⟩ :=
  ⟨lookup_assign_beside value rest other h, fun _ hplace =>
    ⟨lookup_assign_of_itemIndex?_eq_none value rest other hplace h,
      fun _ => lookup_assign_of_itemIndex?_eq_some value rest other hplace⟩⟩

/-- One item has two names, and one segment names no item. -/
theorem lookup_assign_of_ne_items :
    ∃ json items, json = object [("items", array items), ("open", bool true)]
      ∧ items = [natural 1, natural 2]
      ∧ itemIndex? items "0" = some 0 ∧ itemIndex? items "00" = some 0
      ∧ itemIndex? items "2" = none
      ∧ (json.assign ⟨["items", "0"]⟩ null).lookup ⟨["items", "1"]⟩ = some (natural 2)
      ∧ (json.assign ⟨["items", "0"]⟩ null).lookup ⟨["items", "00"]⟩ = some null
      ∧ (json.assign ⟨["items", "2"]⟩ null).lookup ⟨["items", "1"]⟩ = none := by
  let items := [natural 1, natural 2]
  let json := object [("items", array items), ("open", bool true)]
  have hplace : json.lookup ⟨["items"]⟩ = some (array items) := rfl
  have hzero : itemIndex? items "0" = some 0 := by decide
  have hagain : itemIndex? items "00" = some 0 := by decide
  have hnone : itemIndex? items "2" = none := by decide
  refine ⟨json, items, rfl, rfl, hzero, hagain, hnone, ?_, ?_, ?_⟩
  · refine (lookup_assign_of_ne json null ["items"] (by decide : "0" ≠ "1") [] []).1 ?_
    intro found hfound
    cases hfound
    exact ⟨by decide, by decide⟩
  · obtain ⟨_, -, hread⟩ := ((lookup_assign_of_ne json null ["items"] (by decide : "0" ≠ "00") []
      []).2 items hplace).2 0 hzero hagain
    exact hread
  · exact (((lookup_assign_of_ne json null ["items"] (by decide : "2" ≠ "1") [] []).2 items
      hplace).1 hnone).2

end Wireframe.Json
