/-!
# Entries

Finite maps from text keys that remember the order in which their keys came. Writing a key that is
there already keeps its place.
-/

namespace Wireframe

/-- Keys and values in order of arrival. -/
abbrev Entries (α : Type) := List (String × α)

namespace Entries

variable {α : Type}

/-- The value of the first entry with this key. -/
def get? : Entries α → String → Option α
  | [], _ => none
  | (k, v) :: rest, key => if k = key then some v else get? rest key

/-- Whether some entry has this key. -/
def contains (entries : Entries α) (key : String) : Bool :=
  (entries.get? key).isSome

/-- Writes a value: in place where the key is present, at the end where it is not. -/
def insert : Entries α → String → α → Entries α
  | [], key, value => [(key, value)]
  | (k, v) :: rest, key, value =>
    if k = key then (k, value) :: rest else (k, v) :: insert rest key value

/-- Writes the entries of `other` one after the other. -/
def overlay (entries other : Entries α) : Entries α :=
  other.foldl (fun merged entry => insert merged entry.1 entry.2) entries

/-- Removes the entries with this key. -/
def erase (entries : Entries α) (key : String) : Entries α :=
  List.filter (fun entry => entry.1 ≠ key) entries

/-- The keys in order. -/
def keys (entries : Entries α) : List String :=
  List.map (·.1) entries

@[simp] theorem get?_nil (key : String) : get? ([] : Entries α) key = none := rfl

@[simp] theorem get?_cons (k : String) (v : α) (rest : Entries α) (key : String) :
    get? ((k, v) :: rest) key = if k = key then some v else get? rest key := rfl

/-- What is found under a key is an entry. -/
theorem mem_of_get? {entries : Entries α} {key : String} {value : α}
    (h : entries.get? key = some value) : (key, value) ∈ entries := by
  induction entries with
  | nil => cases h
  | cons entry entries ih =>
    obtain ⟨k, v⟩ := entry
    rw [get?_cons] at h
    split at h
    · next hkey =>
      cases h
      rw [hkey]
      exact List.mem_cons_self
    · exact List.mem_cons_of_mem _ (ih h)

theorem get?_insert_self (entries : Entries α) (key : String) (value : α) :
    (insert entries key value).get? key = some value := by
  induction entries with
  | nil => simp [insert]
  | cons entry rest ih =>
    obtain ⟨k, v⟩ := entry
    by_cases h : k = key <;> simp [insert, h, ih]

theorem get?_insert_of_ne (entries : Entries α) {key other : String} (value : α)
    (h : key ≠ other) : (insert entries key value).get? other = entries.get? other := by
  induction entries with
  | nil => simp [insert, h]
  | cons entry rest ih =>
    obtain ⟨k, v⟩ := entry
    by_cases hk : k = key
    · subst hk; simp [insert, h]
    · simp [insert, hk, ih]

theorem insert_of_get? {entries : Entries α} {key : String} {value : α}
    (h : entries.get? key = some value) : insert entries key value = entries := by
  induction entries with
  | nil => simp at h
  | cons entry rest ih =>
    obtain ⟨k, v⟩ := entry
    by_cases hk : k = key
    · simp_all [insert]
    · simp_all [insert]

theorem keys_insert_of_contains {entries : Entries α} {key : String} (value : α)
    (h : entries.contains key = true) : (insert entries key value).keys = entries.keys := by
  induction entries with
  | nil => simp [contains] at h
  | cons entry rest ih =>
    obtain ⟨k, v⟩ := entry
    by_cases hk : k = key
    · simp [insert, hk, keys]
    · simp only [contains, get?_cons, hk, if_false] at h
      simpa [insert, hk, keys] using ih h

end Entries

end Wireframe
