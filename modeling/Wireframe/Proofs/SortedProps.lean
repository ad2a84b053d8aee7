import Wireframe.Proofs.Overrides
import Mathlib.Data.List.Lattice
import Mathlib.Data.List.Pairwise

/-!
# Sorting props into fields

A view takes the props of its fields out of a shared copy, one field after the other. Since no key is
accepted by two fields, the order of taking makes no difference: each field holds the prop of the first
of its keys that is there, and what no field accepts is left as it was, in its order
(`View.ofProps_partition`).
-/

namespace Wireframe

/-- Whether a value stands under the first of these keys that is there. -/
def Entries.IsFirst {α : Type} (entries : Entries α) (keys : List String) (value : α) : Prop :=
  ∃ before key after, keys = before ++ key :: after ∧ entries.get? key = some value
    ∧ ∀ earlier ∈ before, earlier ∉ entries.keys

lemma Entries.findSome?_get?_eq_some_iff {α : Type} {entries : Entries α} {keys : List String}
    {value : α} : keys.findSome? entries.get? = some value ↔ entries.IsFirst keys value := by
  simp only [List.findSome?_eq_some_iff, get?_eq_none_iff, IsFirst]

/-- The keys that the fields of a form accept. -/
def Form.keys (form : Form) : List String :=
  form.fields.flatMap (·.2)

/-- Each key that a form accepts belongs to one field. -/
lemma Form.existsUnique_field (form : Form) {key : String} (h : key ∈ form.keys) :
    ∃! entry, entry ∈ form.fields ∧ key ∈ entry.2 := by
  obtain ⟨entry, hentry, hkey⟩ := List.mem_flatMap.mp h
  refine ⟨entry, ⟨hentry, hkey⟩, fun other hother => ?_⟩
  obtain ⟨-, hdisjoint⟩ := List.nodup_flatMap.mp form.nodup_fields.2
  have : Std.Symm (Function.onFun List.Disjoint fun entry : Field × List String => entry.2) :=
    ⟨fun _ _ h => List.Disjoint.symm h⟩
  by_contra hne
  exact hdisjoint.forall hother.1 hentry hne hother.2 hkey

namespace View

/-! ### What is left -/

/-- Taking keys leaves the props under other keys, in their order. -/
lemma take_snd (keys : List String) (props : Props) :
    (take keys props).2 = List.filter (fun entry => entry.1 ∉ keys) props := by
  induction keys generalizing props with
  | nil => simp [take]
  | cons key keys ih =>
    have htake : (take (key :: keys) props).2 = (take keys (props.erase key)).2 := rfl
    rw [htake, ih, Entries.erase, List.filter_filter]
    refine List.filter_congr fun entry _ => ?_
    simp only [← Bool.decide_and, List.mem_cons, not_or, and_comm]

lemma fill_snd (fields : List (Field × List String)) (props : Props) :
    (fill fields props).2 = List.filter (fun entry => entry.1 ∉ fields.flatMap (·.2)) props := by
  induction fields generalizing props with
  | nil => simp [fill]
  | cons first fields ih =>
    obtain ⟨field, keys⟩ := first
    have hfill : (fill ((field, keys) :: fields) props).2 = (fill fields (take keys props).2).2 := by
      simp only [fill]
      split <;> rfl
    rw [hfill, ih, take_snd, List.filter_filter]
    refine List.filter_congr fun entry _ => ?_
    simp only [← Bool.decide_and, List.flatMap_cons, List.mem_append, not_or, and_comm]

/-! ### What is taken -/

/-- Where no two fields accept the same key, what was taken before is not asked for. -/
lemma fill_fst {fields : List (Field × List String)} (hkeys : (fields.flatMap (·.2)).Nodup)
    (props : Props) :
    (fill fields props).1
      = fields.filterMap fun (field, keys) => (keys.findSome? props.get?).map (field, ·) := by
  induction fields generalizing props with
  | nil => rfl
  | cons first fields ih =>
    obtain ⟨field, keys⟩ := first
    rw [List.flatMap_cons, List.nodup_append] at hkeys
    obtain ⟨-, hrest, hdisjoint⟩ := hkeys
    have hleft : (fill fields (take keys props).2).1
        = fields.filterMap fun (field, keys) => (keys.findSome? props.get?).map (field, ·) := by
      rw [ih hrest]
      refine List.filterMap_congr fun entry hentry => ?_
      obtain ⟨other, asked⟩ := entry
      refine congrArg (Option.map (other, ·)) (findSome?_congr fun key hkey => ?_)
      refine get?_take_snd (fun htaken => ?_) props
      exact hdisjoint key htaken key (List.mem_flatMap_of_mem hentry hkey) rfl
    simp only [fill, List.filterMap_cons, ← take_fst keys, hleft]
    cases (take keys props).1 <;> rfl

/-- A view has the form of its type. Its fields are those of the form that some prop was found for, in
their order: each holds the prop of the first of its keys that is there, and is missing if none is. What
is left are the props that no field accepts, with their values and in their order; and each key that is
accepted belongs to one field. -/
theorem ofProps_partition (type : ComponentType) (props : Props) :
    let view := ofProps type props
    view.form = type.form
      ∧ view.fields
        = type.form.fields.filterMap (fun (field, keys) =>
          (keys.findSome? props.get?).map (field, ·))
      ∧ (∀ field keys, (field, keys) ∈ type.form.fields →
        (∀ value, view.get? field = some value ↔ props.IsFirst keys value)
          ∧ (view.get? field = none ↔ ∀ key ∈ keys, key ∉ Entries.keys props))
      ∧ (∀ field, field ∉ type.form.fields.map (·.1) → view.get? field = none)
      ∧ view.extra = List.filter (fun entry => entry.1 ∉ type.form.keys) props
      ∧ ∀ key ∈ type.form.keys, ∃! entry, entry ∈ type.form.fields ∧ key ∈ entry.2 := by
  refine ⟨rfl, fill_fst type.form.nodup_fields.2 props, fun field keys hfield => ⟨fun value => ?_, ?_⟩,
    fun field hfield => lookup_fill_eq_none hfield props, fill_snd _ props,
    fun key => type.form.existsUnique_field⟩
  · rw [get?_ofProps hfield, Entries.findSome?_get?_eq_some_iff]
  · exact get?_ofProps_eq_none_iff hfield props

/-- A radio button with two of the keys for its content, between props that it does not know. -/
theorem ofProps_partition_radio :
    let props : Props :=
      [("flex", .value (.natural 1)), ("label", .binding (.literal "Day")),
        ("tag", .value .null), ("text", .binding (.literal "Daily"))]
    let view := ofProps .radioButton props
    (.content, ["content", "text", "label"]) ∈ ComponentType.radioButton.form.fields
      ∧ view.get? .content = some (.binding (.literal "Daily"))
      ∧ view.get? .value = none
      ∧ view.extra = [("flex", .value (.natural 1)), ("tag", .value .null)] := by
  intro props view
  obtain ⟨-, -, hfields, -, hextra, -⟩ := ofProps_partition .radioButton props
  have hcontent : (.content, ["content", "text", "label"]) ∈ ComponentType.radioButton.form.fields := by
    decide
  refine ⟨hcontent, ?_, ?_, hextra⟩
  · exact ((hfields _ _ hcontent).1 _).mpr ⟨["content"], "text", ["label"], rfl, rfl, by decide⟩
  · exact (hfields .value ["value"] (by decide)).2.mpr (by decide)

end View

end Wireframe
