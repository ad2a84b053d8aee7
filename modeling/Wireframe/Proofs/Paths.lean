import Wireframe.Path
import Wireframe.Proofs.EntryLookups

/-!
# Reading back what was written

`lookup_assign`: whatever is written at a path is found there afterwards, through objects, arrays
and values that had to give way. Writing again leaves nothing of the first write (`assign_assign`),
and writing what is there already changes nothing, not even the order of keys (`assign_of_lookup`).
-/

namespace Wireframe

namespace Json

lemma part?_writeField (change : Json → Json) (fields : Entries Json) (key : String) :
    (writeField change fields key).part? key = some (change ((fields.get? key).getD null)) := by
  simp only [writeField, part?]
  exact Entries.get?_insert_self _ _ _

/-! ### Items of arrays -/

section

variable {items : List Json} {segment : String} {i : Nat} {item : Json}

lemma part?_set (value : Json) (hi : Path.index? segment = some i) (hitem : items[i]? = some item) :
    (array (items.set i value)).part? segment = some value := by
  have hlt : i < items.length := (List.getElem?_eq_some_iff.mp hitem).1
  simp [part?, hi, hlt]

/-- The index of the item that a segment names in an array. -/
def itemIndex? (items : List Json) (segment : String) : Option Nat :=
  (Path.index? segment).filter (· < items.length)

lemma part?_array (items : List Json) (segment : String) :
    (array items).part? segment = (itemIndex? items segment).bind (items[·]?) := by
  simp only [part?, itemIndex?]
  cases Path.index? segment with
  | none => rfl
  | some i =>
    by_cases hi : i < items.length
    · simp [Option.filter, hi]
    · simp [Option.filter, hi]

lemma exists_getElem?_of_itemIndex? (h : itemIndex? items segment = some i) :
    Path.index? segment = some i ∧ ∃ item, items[i]? = some item := by
  obtain ⟨hindex, hi⟩ := Option.filter_eq_some_iff.mp h
  exact ⟨hindex, _, List.getElem?_eq_getElem (of_decide_eq_true hi)⟩

lemma itemIndex?_set (i : Nat) (item : Json) (segment : String) :
    itemIndex? (items.set i item) segment = itemIndex? items segment := by
  simp only [itemIndex?, List.length_set]

/-- An index in range leads to its item. -/
lemma write_array_of_getElem? (hi : Path.index? segment = some i) (hitem : items[i]? = some item)
    (value : Json) (rest : List String) :
    write value (segment :: rest) (array items) = array (items.set i (write value rest item)) := by
  simp only [write, hi, hitem, Option.bind_some, Option.map_some]

/-- A write to one of its items makes an array of the same length. -/
lemma write_array_of_itemIndex? (h : itemIndex? items segment = some i) (value : Json)
    (rest : List String) : ∃ item, (array items).part? segment = some item
      ∧ write value (segment :: rest) (array items) = array (items.set i (write value rest item)) := by
  obtain ⟨hindex, item, hitem⟩ := exists_getElem?_of_itemIndex? h
  exact ⟨item, by rw [part?_array, h, Option.bind_some, hitem],
    write_array_of_getElem? hindex hitem value rest⟩

/-- An array that has no item for a segment gives way to an object. -/
lemma write_array_of_itemIndex?_eq_none (h : itemIndex? items segment = none) (value : Json)
    (rest : List String) :
    write value (segment :: rest) (array items) = writeField (write value rest) [] segment := by
  have hpart : ((Path.index? segment).bind fun i => (items[i]?).map (i, ·)) = none := by
    cases hindex : Path.index? segment with
    | none => rfl
    | some i =>
      rw [itemIndex?, hindex] at h
      have hi : ¬i < items.length := by simpa using h
      simp [Nat.le_of_not_lt hi]
  rw [write, hpart]

end

/-! ### Reading back -/

/-- What a write makes of the part that the first segment names. -/
lemma part?_write (value json : Json) (segment : String) (rest : List String) :
    (write value (segment :: rest) json).part? segment
      = some (write value rest ((json.part? segment).getD null)) := by
  cases json with
  | array items =>
    cases h : itemIndex? items segment with
    | some i =>
      obtain ⟨item, hitem, hwrite⟩ := write_array_of_itemIndex? h value rest
      obtain ⟨hindex, _, hfound⟩ := exists_getElem?_of_itemIndex? h
      rw [hwrite, hitem, part?_set _ hindex hfound, Option.getD_some]
    | none =>
      rw [write_array_of_itemIndex?_eq_none h, part?_writeField, part?_array, h]
      rfl
  | object fields => exact part?_writeField _ fields segment
  | null | bool _ | number _ | string _ => exact part?_writeField _ [] segment

theorem follow_write (value : Json) (segments : List String) (json : Json) :
    (write value segments json).follow segments = some value := by
  induction segments generalizing json with
  | nil => rfl
  | cons segment rest ih =>
    rw [follow_cons, part?_write, Option.bind_some]
    exact ih _

theorem lookup_assign (json : Json) (path : Path) (value : Json) :
    (json.assign path value).lookup path = some value :=
  follow_write value path.segments json

/-! ### Writing again -/

lemma write_writeField {first second : Json} {rest : List String}
    (h : ∀ json, write second rest (write first rest json) = write second rest json)
    (fields : Entries Json) (segment : String) :
    write second (segment :: rest) (writeField (write first rest) fields segment)
      = writeField (write second rest) fields segment := by
  simp only [writeField, write, Entries.get?_insert_self, Option.getD_some, h,
    Entries.insert_insert]

/-- What is written last stays, whatever was written in its place before. -/
theorem write_write (first second : Json) (segments : List String) (json : Json) :
    write second segments (write first segments json) = write second segments json := by
  induction segments generalizing json with
  | nil => rfl
  | cons segment rest ih =>
    cases json with
    | array items =>
      cases hindex : itemIndex? items segment with
      | some i =>
        obtain ⟨hi, item, hitem⟩ := exists_getElem?_of_itemIndex? hindex
        have hlt : i < items.length := (List.getElem?_eq_some_iff.mp hitem).1
        have hset : (items.set i (write first rest item))[i]? = some (write first rest item) :=
          List.getElem?_set_self hlt
        rw [write_array_of_getElem? hi hitem, write_array_of_getElem? hi hset,
          write_array_of_getElem? hi hitem, ih, List.set_set]
      | none =>
        -- Without an index in range the array gives way to an object, in both writes.
        rw [write_array_of_itemIndex?_eq_none hindex, write_array_of_itemIndex?_eq_none hindex]
        exact write_writeField ih [] segment
    | object fields => exact write_writeField ih fields segment
    | null | bool _ | number _ | string _ => exact write_writeField ih [] segment

theorem assign_assign (json : Json) (path : Path) (first second : Json) :
    (json.assign path first).assign path second = json.assign path second :=
  write_write first second path.segments json

/-! ### Writing what is there -/

theorem write_of_follow {value : Json} {segments : List String} {json : Json}
    (h : json.follow segments = some value) : write value segments json = json := by
  induction segments generalizing json with
  | nil =>
    cases h
    rfl
  | cons segment rest ih =>
    obtain ⟨inner, hpart, hinner⟩ := Option.bind_eq_some_iff.mp h
    cases json with
    | array items =>
      obtain ⟨i, hi, hitem⟩ := Option.bind_eq_some_iff.mp hpart
      obtain ⟨hlt, hget⟩ := List.getElem?_eq_some_iff.mp hitem
      rw [write_array_of_getElem? hi hitem, ih hinner, ← hget, List.set_getElem_self]
    | object fields =>
      have hfound : Entries.get? fields segment = some inner := hpart
      rw [write, writeField, hfound, Option.getD_some, ih hinner, Entries.insert_of_get? hfound]
    | null | bool _ | number _ | string _ => cases hpart

theorem assign_of_lookup {json value : Json} {path : Path} (h : json.lookup path = some value) :
    json.assign path value = json :=
  write_of_follow h

/-! ### The laws of a store -/

/-- Values are stores with their paths as keys: what was written is read, the last write counts, and
writing what is read changes nothing. -/
theorem assign_laws (json : Json) (path : Path) (first second : Json) :
    (json.assign path first).lookup path = some first
      ∧ (json.assign path first).assign path second = json.assign path second
      ∧ (json.lookup path = some first → json.assign path first = json) :=
  ⟨lookup_assign json path first, assign_assign json path first second, assign_of_lookup⟩

theorem assign_laws_items :
    ∃ json, json = object [("items", array [natural 1, natural 2]), ("open", bool true)]
      ∧ json.lookup ⟨["items", "1"]⟩ = some (natural 2)
      ∧ json.assign ⟨["items", "1"]⟩ (natural 2) = json :=
  have hitem := rfl
  ⟨_, rfl, hitem, (assign_laws _ _ _ null).2.2 hitem⟩

end Json

end Wireframe
