import Wireframe.Entries
import Mathlib.Tactic.Common

/-!
# Looking up entries

What is found in entries that were written to, joined or filtered.
-/

namespace Wireframe.Entries

variable {α : Type} {entries : Entries α} {key : String}

lemma get?_eq_none_iff : entries.get? key = none ↔ key ∉ entries.keys := by
  induction entries with
  | nil => simp [keys]
  | cons entry entries ih =>
    obtain ⟨k, v⟩ := entry
    rw [get?_cons, keys, List.map_cons, List.mem_cons, not_or]
    by_cases h : k = key
    · simp [h]
    · rw [if_neg h, ih]
      simp [keys, Ne.symm h]

lemma get?_append (entries others : Entries α) (key : String) :
    Entries.get? (entries ++ others) key = (entries.get? key).or (others.get? key) := by
  induction entries with
  | nil => rfl
  | cons entry entries ih =>
    obtain ⟨k, value⟩ := entry
    rw [List.cons_append, get?_cons, get?_cons]
    split
    · rfl
    · exact ih

lemma contains_append (entries others : Entries α) (key : String) :
    Entries.contains (entries ++ others) key = (entries.contains key || others.contains key) := by
  rw [contains, get?_append, Option.isSome_or, contains, contains]

lemma contains_append_of_ne {other : String} {value : α} (h : key ≠ other) :
    Entries.contains (entries ++ [(key, value)]) other = entries.contains other := by
  rw [contains, get?_append, get?_cons, if_neg h, get?_nil, Option.or_none, contains]

/-- It makes no difference to what is found where the only entry with its key stands. -/
lemma get?_move {before between : Entries α} (h : between.get? key = none) (value : α)
    (after : Entries α) (asked : String) :
    Entries.get? (before ++ between ++ [(key, value)] ++ after) asked
      = Entries.get? (before ++ [(key, value)] ++ between ++ after) asked := by
  simp only [get?_append, get?_cons, get?_nil]
  split
  · next hkey =>
    subst hkey
    simp only [h, Option.or_none]
  · simp only [Option.or_none]

lemma get?_erase (entries : Entries α) (key asked : String) :
    (entries.erase key).get? asked = if asked = key then none else entries.get? asked := by
  induction entries with
  | nil => simp [erase]
  | cons entry entries ih =>
    obtain ⟨k, v⟩ := entry
    by_cases hk : k = key
    · rw [erase, List.filter_cons_of_neg (by simpa using hk), ← erase, ih, get?_cons, hk]
      by_cases hasked : asked = key
      · simp [hasked]
      · simp [hasked, Ne.symm hasked]
    · rw [erase, List.filter_cons_of_pos (by simpa using hk), ← erase, get?_cons, get?_cons, ih]
      by_cases hasked : k = asked
      · simp [← hasked, hk]
      · simp [hasked]

lemma erase_of_get?_eq_none (h : entries.get? key = none) : entries.erase key = entries := by
  rw [get?_eq_none_iff] at h
  refine List.filter_eq_self.mpr fun entry hentry => decide_eq_true ?_
  rintro rfl
  exact h (List.mem_map_of_mem hentry)

lemma insert_of_notMem (h : key ∉ entries.keys) (value : α) :
    entries.insert key value = entries ++ [(key, value)] := by
  induction entries with
  | nil => rfl
  | cons entry entries ih =>
    obtain ⟨k, v⟩ := entry
    simp only [keys, List.map_cons, List.mem_cons, not_or] at h
    rw [insert, if_neg (Ne.symm h.1), ih h.2, List.cons_append]

/-- Writing a value gives no key twice. -/
lemma nodup_keys_insert (h : entries.keys.Nodup) {value : α} :
    (entries.insert key value).keys.Nodup := by
  by_cases hkey : entries.contains key = true
  · rwa [keys_insert_of_contains value hkey]
  · rw [contains, Option.not_isSome_iff_eq_none, get?_eq_none_iff] at hkey
    rw [insert_of_notMem hkey, keys, List.map_append, ← keys]
    refine List.nodup_append.mpr ⟨h, List.pairwise_singleton _ _, fun other hother last hlast => ?_⟩
    rw [List.mem_singleton.mp hlast]
    exact ne_of_mem_of_not_mem hother hkey

lemma insert_insert (entries : Entries α) (key : String) (first second : α) :
    (entries.insert key first).insert key second = entries.insert key second := by
  induction entries with
  | nil => simp [insert]
  | cons entry entries ih =>
    obtain ⟨k, v⟩ := entry
    by_cases hk : k = key <;> simp [insert, hk, ih]

/-! ### Entries that do not count -/

section

variable {β : Type} {f : String × α → Option β} (h : ∀ value, f (key, value) = none)
include h

/-- It makes no difference to what is taken of entries which value stands under a key that nothing is
taken of. -/
lemma filterMap_insert_of_eq_none (entries : Entries α) (value : α) :
    List.filterMap f (entries.insert key value) = List.filterMap f entries := by
  induction entries with
  | nil => simp [insert, h]
  | cons entry entries ih =>
    obtain ⟨k, v⟩ := entry
    by_cases hk : k = key
    · subst hk
      simp [insert, h]
    · simp [insert, hk, List.filterMap_cons, ih]

lemma filterMap_erase_of_eq_none (entries : Entries α) :
    List.filterMap f (entries.erase key) = List.filterMap f entries := by
  induction entries with
  | nil => rfl
  | cons entry entries ih =>
    obtain ⟨k, v⟩ := entry
    by_cases hk : k = key
    · rw [erase, List.filter_cons_of_neg (by simpa using hk), ← erase, ih, List.filterMap_cons, hk, h]
    · rw [erase, List.filter_cons_of_pos (by simpa using hk), ← erase, List.filterMap_cons, ih,
        List.filterMap_cons]

end

/-! ### Entries that are kept -/

section

variable {β : Type} {f : String × α → Option (String × β)}
  (hf : ∀ key value kept, f (key, value) = some kept → kept.1 = key)
include hf

/-- Where the entries that are kept stay under their keys, nothing new is found. -/
lemma get?_filterMap_of_eq_none (h : entries.get? key = none) :
    Entries.get? (entries.filterMap f) key = none := by
  rw [get?_eq_none_iff] at h ⊢
  intro hkey
  obtain ⟨kept, hmem, rfl⟩ := List.mem_map.mp hkey
  obtain ⟨entry, hentry, hkept⟩ := List.mem_filterMap.mp hmem
  exact h (hf _ _ kept hkept ▸ List.mem_map_of_mem hentry)

lemma get?_filterMap_of_eq_some {value : α} {kept : β} (h : entries.get? key = some value)
    (hkept : f (key, value) = some (key, kept)) :
    Entries.get? (entries.filterMap f) key = some kept := by
  induction entries with
  | nil => cases h
  | cons entry entries ih =>
    obtain ⟨k, v⟩ := entry
    rw [get?_cons] at h
    split at h
    · next hk =>
      cases h
      rw [hk, List.filterMap_cons_some hkept, get?_cons, if_pos rfl]
    · next hk =>
      rw [List.filterMap_cons]
      split
      · exact ih h
      · next other hother =>
        have hne : other.1 ≠ key := fun heq => hk ((hf _ _ _ hother).symm.trans heq)
        rw [get?_cons, if_neg hne]
        exact ih h

end

end Wireframe.Entries
