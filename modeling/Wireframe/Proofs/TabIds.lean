import Wireframe.Proofs.Loading
import Mathlib.Data.List.Nodup

/-!
# The ids of tabs

No two tabs of a loaded document have the same id (`Document.Loaded.nodup_tabIds`): the keys of an
object are different, a list is refused if an id comes again, and the order of the tab bar only moves
the tabs that are there.
-/

namespace Wireframe

variable {tabs result : List Tab}

/-! ### Declarations -/

/-- The tabs that a value declares are called as they are to be. -/
lemma id_of_mem_readTab? {id : String} {json : Json} {tab : Tab} (h : tab ∈ readTab? id json) :
    tab.id = id := by
  obtain ⟨fields, -, rfl⟩ := Option.map_eq_some_iff.mp h
  rfl

lemma sublist_keys_readTabs (fields : Entries Json) :
    ((fields.filterMap fun (id, json) => readTab? id json).map Tab.id).Sublist fields.keys := by
  induction fields with
  | nil => exact .slnil
  | cons entry fields ih =>
    obtain ⟨id, json⟩ := entry
    rw [List.filterMap_cons]
    dsimp only
    split
    · exact ih.cons id
    · next tab htab =>
      rw [List.map_cons, id_of_mem_readTab? htab]
      exact ih.cons_cons id

lemma nodup_ids_readTabList {explicit : List String} {index : Nat} {items : List Json}
    (htabs : (tabs.map Tab.id).Nodup)
    (h : readTabList explicit index tabs items = .ok result) : (result.map Tab.id).Nodup := by
  induction items generalizing index tabs with
  | nil =>
    cases h
    exact htabs
  | cons json items ih =>
    unfold readTabList at h
    extract_lets id at h
    split at h
    · cases h
    · next hnotin =>
      refine ih ?_ h
      cases htab : readTab? id json with
      | none => simpa using htabs
      | some tab =>
        rw [Option.toList_some, List.map_append, List.map_singleton, id_of_mem_readTab? htab]
        exact htabs.append (List.nodup_singleton _) (List.disjoint_singleton.mpr hnotin)

lemma nodup_ids_readTabs {section? : Option Json}
    (hsection : ∀ json ∈ section?, json.hasDistinctKeys = true)
    (h : readTabs section? = .ok tabs) : (tabs.map Tab.id).Nodup := by
  simp only [readTabs] at h
  split at h
  · next fields =>
    cases h
    have hkeys := (Json.hasDistinctKeys_object.mp (hsection _ rfl)).1
    exact (sublist_keys_readTabs fields).nodup hkeys
  · exact @nodup_ids_readTabList [] _ _ _ _ List.nodup_nil h
  · cases h
    exact List.nodup_nil

/-! ### Order -/

/-- Taking the first item that satisfies a condition to the front loses none and adds none. -/
lemma perm_cons_eraseP {α : Type} {items : List α} {item : α} {p : α → Bool}
    (h : items.find? p = some item) : (item :: items.eraseP p).Perm items := by
  induction items with
  | nil => cases h
  | cons first items ih =>
    rw [List.find?_cons] at h
    split at h
    · next hp =>
      cases h
      rw [List.eraseP_cons_of_pos hp]
    · next hp =>
      rw [List.eraseP_cons_of_neg (by simp [hp])]
      exact (List.Perm.swap first item _).trans ((ih h).cons first)

/-- Putting tabs first loses none and adds none. -/
theorem perm_orderTabs {first : List Tab} {order : List String}
    (h : orderTabs first tabs order = .ok result) : result.Perm (first ++ tabs) := by
  induction order generalizing first tabs with
  | nil =>
    cases h
    rfl
  | cons id order ih =>
    rw [orderTabs] at h
    split at h
    · cases h
    · split at h
      · next tab hfind =>
        have hmoved := (perm_cons_eraseP hfind).append_left first
        rw [List.append_cons] at hmoved
        exact (ih h).trans hmoved
      · exact ih h

/-! ### Documents -/

namespace Document

variable {document : Document}

/-- The tabs of a loaded document are those that were declared, in some order. -/
lemma exists_perm_of_ofJson? {root : Entries Json} (h : ofJson? (.object root) = .ok document) :
    ∃ declared, readTabs (Entries.get? root "tabs") = .ok declared
      ∧ document.tabs.Perm declared := by
  obtain ⟨declared, tabs, hdeclared, horder, rfl⟩ := ofJson?_eq_ok.mp h
  refine ⟨declared, hdeclared, ?_⟩
  simp only [OrdersTabs] at horder
  split at horder
  · exact perm_orderTabs horder
  · cases horder
    rfl

theorem Loaded.nodup_tabIds (h : document.Loaded) : (document.tabs.map Tab.id).Nodup := by
  obtain ⟨json, hjson, hload⟩ := h
  cases json with
  | object root =>
    obtain ⟨declared, hdeclared, hperm⟩ := exists_perm_of_ofJson? hload
    have hnodup := nodup_ids_readTabs (fun _ => Json.hasDistinctKeys_of_get? hjson) hdeclared
    exact (hperm.map Tab.id).nodup_iff.mpr hnodup
  | _ => cases hload

end Document

end Wireframe
