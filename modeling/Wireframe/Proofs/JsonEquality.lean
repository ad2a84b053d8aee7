import Wireframe.Proofs.DistinctKeys
import Mathlib.Data.List.Perm.Subperm

/-!
# Equality of values

Values are equal up to the order in which objects have their keys. Among values whose objects have no
key twice this is an equivalence (`Json.equal_self`, `Json.equal_symm`); that it goes from one value to
the next needs nothing (`Json.equal_trans`).
-/

namespace Wireframe

namespace Number

lemma equal_symm {m n : Number} (h : m.equal n = true) : n.equal m = true := by
  cases m <;> cases n <;> simp_all [equal]
  rcases h with rfl | h
  · exact .inl rfl
  · exact .inr ⟨h.2, h.1⟩

lemma equal_trans {k m n : Number} (h : k.equal m = true) (h' : m.equal n = true) :
    k.equal n = true := by
  cases k <;> cases m <;> cases n <;> simp_all [equal]
  rcases h with rfl | h
  · exact h'
  · rcases h' with rfl | h'
    · exact .inr h
    · exact .inr ⟨h.1, h'.2⟩

end Number

namespace Entries

variable {α : Type} {entries : Entries α} {key : String}

/-- Where no key comes twice, every entry is found under its key. -/
lemma get?_of_mem (h : entries.keys.Nodup) {value : α} (hmem : (key, value) ∈ entries) :
    entries.get? key = some value := by
  induction entries with
  | nil => cases hmem
  | cons entry entries ih =>
    obtain ⟨k, v⟩ := entry
    obtain ⟨hnotin, hrest⟩ := List.nodup_cons.mp h
    rw [get?_cons]
    rcases List.mem_cons.mp hmem with heq | hmem
    · cases heq
      rw [if_pos rfl]
    · have hne : k ≠ key := by
        rintro rfl
        exact hnotin (List.mem_map.mpr ⟨_, hmem, rfl⟩)
      rw [if_neg hne]
      exact ih hrest hmem

end Entries

namespace Json

/-- What holds of a value as soon as it holds of all values in it holds of every value. -/
@[elab_as_elim]
theorem parts_induction {p : Json → Prop} (null : p null) (bool : ∀ b, p (bool b))
    (number : ∀ n, p (number n)) (string : ∀ text, p (string text))
    (array : ∀ items, (∀ item ∈ items, p item) → p (array items))
    (object : ∀ fields, (∀ entry ∈ fields, p entry.2) → p (object fields)) (value : Json) :
    p value :=
  @Json.rec p (fun items => ∀ item ∈ items, p item) (fun fields => ∀ entry ∈ fields, p entry.2)
    (fun entry => p entry.2) null bool number string array object (List.forall_mem_nil _)
    (fun _ _ hitem hitems => List.forall_mem_cons.mpr ⟨hitem, hitems⟩) (List.forall_mem_nil _)
    (fun _ _ hentry hentries => List.forall_mem_cons.mpr ⟨hentry, hentries⟩) (fun _ _ h => h) value

lemma equal_array {xs ys : List Json} :
    equal (array xs) (array ys) = true ↔ List.Forall₂ (fun x y => equal x y = true) xs ys := by
  rw [equal]
  induction xs generalizing ys with
  | nil => cases ys <;> simp [equalItems]
  | cons x xs ih => cases ys <;> simp [equalItems, ih]

lemma equal_object {xs ys : Entries Json} :
    equal (object xs) (object ys) = true ↔ xs.length = ys.length
      ∧ ∀ entry ∈ xs, ∃ y, ys.get? entry.1 = some y ∧ equal entry.2 y = true := by
  rw [equal, Bool.and_eq_true, beq_iff_eq]
  refine and_congr_right' ?_
  induction xs with
  | nil => simp [equalFields]
  | cons entry xs ih =>
    obtain ⟨key, x⟩ := entry
    rw [equalFields, Bool.and_eq_true, ih, List.forall_mem_cons]
    refine and_congr_left' ?_
    cases Entries.get? ys key <;> simp

/-- The keys of equal objects are the same, in some order. -/
lemma perm_keys {xs ys : Entries Json} (hkeys : xs.keys.Nodup) (hlength : xs.length = ys.length)
    (h : ∀ entry ∈ xs, ∃ y, ys.get? entry.1 = some y ∧ equal entry.2 y = true) :
    xs.keys.Perm ys.keys := by
  have hsubset : xs.keys ⊆ ys.keys := by
    intro key hkey
    obtain ⟨entry, hentry, rfl⟩ := List.mem_map.mp hkey
    obtain ⟨y, hy, -⟩ := h entry hentry
    exact List.mem_map.mpr ⟨_, Entries.mem_of_get? hy, rfl⟩
  refine (List.subperm_of_subset hkeys hsubset).perm_of_length_le ?_
  simp [Entries.keys, hlength]

theorem equal_self {value : Json} (h : value.hasDistinctKeys = true) : equal value value = true := by
  induction value using parts_induction with
  | null => rfl
  | bool b => simp [equal]
  | number n => simp [equal]
  | string text => simp [equal]
  | array items ih =>
    have hitems := hasDistinctKeys_array.mp h
    exact equal_array.mpr (List.forall₂_same.mpr fun item hitem => ih item hitem (hitems item hitem))
  | object fields ih =>
    obtain ⟨hkeys, hvalues⟩ := hasDistinctKeys_object.mp h
    refine equal_object.mpr ⟨rfl, fun entry hentry => ⟨entry.2, Entries.get?_of_mem hkeys hentry, ?_⟩⟩
    exact ih entry hentry (hvalues entry hentry)

theorem equal_symm {value other : Json} (hvalue : value.hasDistinctKeys = true)
    (h : equal value other = true) : equal other value = true := by
  induction value using parts_induction generalizing other with
  | null => cases other <;> first | rfl | cases h
  | bool b =>
    cases other with
    | bool c => exact beq_iff_eq.mpr (eq_of_beq (α := Bool) h).symm
    | _ => cases h
  | number n =>
    cases other with
    | number m => exact Number.equal_symm h
    | _ => cases h
  | string text =>
    cases other with
    | string s => exact beq_iff_eq.mpr (eq_of_beq (α := String) h).symm
    | _ => cases h
  | array items ih =>
    cases other with
    | array others =>
      have hitems := hasDistinctKeys_array.mp hvalue
      have hequal := (List.forall₂_and_left _ _).mpr
        ⟨fun item hitem => (⟨hitem, hitems item hitem⟩ : _ ∧ _), equal_array.mp h⟩
      refine equal_array.mpr (List.Forall₂.flip (hequal.imp fun item other hitem => ?_))
      exact ih item hitem.1.1 hitem.1.2 hitem.2
    | _ => cases h
  | object fields ih =>
    cases other with
    | object others =>
      obtain ⟨hkeys, hvalues⟩ := hasDistinctKeys_object.mp hvalue
      obtain ⟨hlength, hequal⟩ := equal_object.mp h
      have hperm := perm_keys hkeys hlength hequal
      refine equal_object.mpr ⟨hlength.symm, fun other hother => ?_⟩
      obtain ⟨entry, hentry, hkey⟩ := List.mem_map.mp (hperm.mem_iff.mpr (List.mem_map_of_mem hother))
      obtain ⟨found, hfound, hsame⟩ := hequal entry hentry
      rw [hkey, Entries.get?_of_mem (hperm.nodup hkeys) hother, Option.some_inj] at hfound
      subst hfound
      exact ⟨entry.2, hkey ▸ Entries.get?_of_mem hkeys hentry,
        ih entry hentry (hvalues entry hentry) hsame⟩
    | _ => cases h

theorem equal_trans {value other last : Json} (h : equal value other = true)
    (h' : equal other last = true) : equal value last = true := by
  induction value using parts_induction generalizing other last with
  | null => cases other <;> first | exact h' | cases h
  | bool b =>
    cases other with
    | bool c =>
      cases eq_of_beq (α := Bool) h
      exact h'
    | _ => cases h
  | number n =>
    cases other with
    | number m =>
      cases last with
      | number k => exact Number.equal_trans h h'
      | _ => cases h'
    | _ => cases h
  | string text =>
    cases other with
    | string s =>
      cases eq_of_beq (α := String) h
      exact h'
    | _ => cases h
  | array items ih =>
    cases other with
    | array others =>
      cases last with
      | array lasts =>
        have hfirst := equal_array.mp h
        have hsecond := equal_array.mp h'
        refine equal_array.mpr ?_
        clear h h'
        induction hfirst generalizing lasts with
        | nil => exact hsecond
        | cons hhead _ ihtail =>
          obtain ⟨hitem, hitems⟩ := List.forall_mem_cons.mp ih
          cases hsecond with
          | cons hhead' hrest => exact .cons (hitem hhead hhead') (ihtail hitems _ hrest)
      | _ => cases h'
    | _ => cases h
  | object fields ih =>
    cases other with
    | object others =>
      cases last with
      | object lasts =>
        obtain ⟨hlength, hfirst⟩ := equal_object.mp h
        obtain ⟨hlength', hsecond⟩ := equal_object.mp h'
        refine equal_object.mpr ⟨hlength.trans hlength', fun entry hentry => ?_⟩
        obtain ⟨found, hfound, hsame⟩ := hfirst entry hentry
        obtain ⟨last, hlast, hsame'⟩ := hsecond _ (Entries.mem_of_get? hfound)
        exact ⟨last, hlast, ih entry hentry hsame hsame'⟩
      | _ => cases h'
    | _ => cases h

end Json

end Wireframe
