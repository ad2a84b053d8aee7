import Wireframe.Proofs.EntryLookups
import Wireframe.Proofs.Operations
import Wireframe.Screen.Site
import Mathlib.Data.List.Nodup

/-!
# Overrides

A field of a view holds the prop of the first of its keys that is there (`View.get?_ofProps`). The
overrides of a reference are laid over the props of a component key by key. So what a reference gives
to a field is taken, unless the component has a prop under a key of the field that comes before all
those of the reference: then the override is lost (`Component.get?_overridden`).
-/

namespace Wireframe

namespace Entries

variable {α : Type} {entries other : Entries α} {key : String}

/-- What is laid over entries is found, and else what was there. -/
lemma get?_overlay (h : other.keys.Nodup) :
    (entries.overlay other).get? key = (other.get? key).or (entries.get? key) := by
  induction other generalizing entries with
  | nil => rfl
  | cons entry other ih =>
    obtain ⟨k, v⟩ := entry
    obtain ⟨hnotin, hother⟩ := List.nodup_cons.mp h
    have hrest : ((entries.insert k v).overlay other).get? key
        = (get? other key).or ((entries.insert k v).get? key) := ih hother
    rw [overlay, List.foldl_cons, ← overlay, hrest, get?_cons]
    by_cases hk : k = key
    · subst hk
      rw [if_pos rfl, get?_insert_self, get?_eq_none_iff.mpr hnotin]
      rfl
    · rw [if_neg hk, get?_insert_of_ne _ _ hk]

/-- Whether entries have a key of a list that comes before all those of other entries. -/
def Precedes (entries other : Entries α) (keys : List String) : Prop :=
  ∃ before key after, keys = before ++ key :: after
    ∧ (entries.get? key).isSome = true
    ∧ ∀ earlier ∈ before ++ [key], other.get? earlier = none

lemma not_precedes_nil : ¬entries.Precedes other [] := by
  rintro ⟨before, key, after, hkeys, -⟩
  exact List.append_ne_nil_of_right_ne_nil before (List.cons_ne_nil key after) hkeys.symm

lemma precedes_cons {keys : List String} :
    entries.Precedes other (key :: keys)
      ↔ other.get? key = none ∧ ((entries.get? key).isSome = true ∨ entries.Precedes other keys) := by
  constructor
  · rintro ⟨before, first, after, hkeys, hfirst, hnone⟩
    cases before with
    | nil =>
      cases hkeys
      exact ⟨hnone key (by simp), .inl hfirst⟩
    | cons head before =>
      cases hkeys
      exact ⟨hnone key (by simp), .inr ⟨before, first, after, rfl, hfirst,
        fun earlier hmem => hnone earlier (List.mem_cons_of_mem _ hmem)⟩⟩
  · rintro ⟨hkey, hsome | ⟨before, first, after, rfl, hfirst, hnone⟩⟩
    · exact ⟨[], key, keys, rfl, hsome, by simpa using hkey⟩
    · refine ⟨key :: before, first, after, rfl, hfirst, fun earlier hmem => ?_⟩
      rcases List.mem_cons.mp hmem with rfl | hmem
      · exact hkey
      · exact hnone earlier hmem

lemma Precedes.findSome?_ne_none {keys : List String} (h : entries.Precedes other keys) :
    keys.findSome? entries.get? ≠ none := by
  obtain ⟨before, key, after, rfl, hkey, -⟩ := h
  intro hnone
  rw [List.findSome?_eq_none_iff.mp hnone key (by simp)] at hkey
  cases hkey

/-- What is found first in two layers is found in the upper one, unless the lower one has a key that
comes before. -/
lemma findSome?_or (entries other : Entries α) (keys : List String) :
    (entries.Precedes other keys →
        (keys.findSome? fun key => (other.get? key).or (entries.get? key))
          = keys.findSome? entries.get?)
      ∧ (¬entries.Precedes other keys →
        (keys.findSome? fun key => (other.get? key).or (entries.get? key))
          = (keys.findSome? other.get?).or (keys.findSome? entries.get?)) := by
  induction keys with
  | nil => exact ⟨fun h => absurd h not_precedes_nil, fun _ => rfl⟩
  | cons key keys ih =>
    rw [precedes_cons, List.findSome?_cons, List.findSome?_cons, List.findSome?_cons]
    cases hover : other.get? key with
    | some value => simp
    | none =>
      cases hown : entries.get? key with
      | some value => simp
      | none => simpa using ih

end Entries

namespace View

variable {props : Props} {field : Field} {keys : List String}

/-! ### Fields -/

lemma findSome?_congr {α β : Type} {items : List α} {f g : α → Option β}
    (h : ∀ item ∈ items, f item = g item) : items.findSome? f = items.findSome? g := by
  induction items with
  | nil => rfl
  | cons item items ih =>
    obtain ⟨hitem, hitems⟩ := List.forall_mem_cons.mp h
    rw [List.findSome?_cons, List.findSome?_cons, hitem, ih hitems]

lemma findSome?_erase (props : Props) {key : String} (h : props.get? key = none)
    (keys : List String) :
    keys.findSome? (Entries.erase props key).get? = keys.findSome? props.get? := by
  refine findSome?_congr fun asked _ => ?_
  rw [Entries.get?_erase]
  split
  · next heq => rw [heq, h]
  · rfl

/-- Taking keys finds the prop of the first one that is there. -/
lemma take_fst (keys : List String) (props : Props) :
    (take keys props).1 = keys.findSome? props.get? := by
  induction keys generalizing props with
  | nil => rfl
  | cons key keys ih =>
    have htake : (take (key :: keys) props).1
        = (props.get? key).or (take keys (props.erase key)).1 := rfl
    rw [htake, List.findSome?_cons]
    cases hkey : props.get? key with
    | some value => rfl
    | none => rw [ih, findSome?_erase props hkey, Option.none_or]

/-- Taking keys leaves the props under other keys. -/
lemma get?_take_snd {key : String} (h : key ∉ keys) (props : Props) :
    Entries.get? (take keys props).2 key = props.get? key := by
  induction keys generalizing props with
  | nil => rfl
  | cons first keys ih =>
    obtain ⟨hne, hnotin⟩ := List.ne_and_not_mem_of_not_mem_cons h
    have htake : (take (first :: keys) props).2 = (take keys (props.erase first)).2 := rfl
    rw [htake, ih hnotin, Entries.get?_erase, if_neg hne]

lemma lookup_fill_cons (other : Field) (taken : List String) (fields : List (Field × List String))
    (props : Props) :
    (fill ((other, taken) :: fields) props).1.lookup field
      = if field = other then
          (take taken props).1.or ((fill fields (take taken props).2).1.lookup field)
        else (fill fields (take taken props).2).1.lookup field := by
  simp only [fill]
  by_cases h : field = other
  · rw [if_pos h, h]
    split
    · next hvalue => rw [List.lookup_cons, beq_self_eq_true, hvalue, Option.some_or]
    · next hnone => rw [hnone, Option.none_or]
  · rw [if_neg h]
    split
    · rw [List.lookup_cons, beq_eq_false_iff_ne.mpr h]
    · rfl

lemma lookup_fill_eq_none {fields : List (Field × List String)} (h : field ∉ fields.map (·.1))
    (props : Props) : (fill fields props).1.lookup field = none := by
  induction fields generalizing props with
  | nil => rfl
  | cons first fields ih =>
    obtain ⟨hne, hnotin⟩ := List.ne_and_not_mem_of_not_mem_cons h
    rw [lookup_fill_cons, if_neg hne, ih hnotin]

/-- Where no two fields accept the same key, filling a field is not concerned with the others. -/
lemma lookup_fill {fields : List (Field × List String)} (hnames : (fields.map (·.1)).Nodup)
    (hkeys : (fields.flatMap (·.2)).Nodup) (hfield : (field, keys) ∈ fields) (props : Props) :
    (fill fields props).1.lookup field = keys.findSome? props.get? := by
  induction fields generalizing props with
  | nil => cases hfield
  | cons first fields ih =>
    obtain ⟨other, taken⟩ := first
    obtain ⟨hother, hnames⟩ := List.nodup_cons.mp hnames
    rw [List.flatMap_cons, List.nodup_append] at hkeys
    obtain ⟨-, hkeys, hdisjoint⟩ := hkeys
    rw [lookup_fill_cons]
    rcases List.mem_cons.mp hfield with heq | hrest
    · cases heq
      rw [if_pos rfl, lookup_fill_eq_none hother, Option.or_none, take_fst]
    · have hne : field ≠ other := by
        rintro rfl
        exact hother (List.mem_map.mpr ⟨(field, keys), hrest, rfl⟩)
      rw [if_neg hne, ih hnames hkeys hrest]
      -- the keys that were taken are none of this field's
      refine findSome?_congr fun key hkey => get?_take_snd (fun htaken => ?_) props
      exact hdisjoint key htaken key (List.mem_flatMap_of_mem hrest hkey) rfl

end View

namespace Form

/-- No two fields of a form are the same, and none accepts a key of another one. -/
lemma nodup_fields (form : Form) :
    (form.fields.map (·.1)).Nodup ∧ (form.fields.flatMap (·.2)).Nodup := by
  cases form <;> decide

end Form

/-- A field of a view holds the prop of the first of its keys that is there. -/
theorem View.get?_ofProps {type : ComponentType} {field : Field} {keys : List String}
    (hfield : (field, keys) ∈ type.form.fields) (props : Props) :
    (ofProps type props).get? field = keys.findSome? props.get? :=
  lookup_fill type.form.nodup_fields.1 type.form.nodup_fields.2 hfield props

lemma View.get?_ofProps_eq_none_iff {type : ComponentType} {field : Field} {keys : List String}
    (hfield : (field, keys) ∈ type.form.fields) (props : Props) :
    (ofProps type props).get? field = none ↔ ∀ key ∈ keys, key ∉ Entries.keys props := by
  rw [get?_ofProps hfield, List.findSome?_eq_none_iff]
  exact forall₂_congr fun key _ => Entries.get?_eq_none_iff

namespace Component

/-- A field of a component under a reference holds the first of its keys that is in either's props, and
under each key the reference comes first. -/
lemma get?_view_overridden (component : Component) {reference : Reference}
    (hdistinct : (Entries.keys reference.props).Nodup) {field : Field} {keys : List String}
    (hfield : (field, keys) ∈ component.type.form.fields) :
    (component.overridden reference).view.get? field
      = keys.findSome? fun key =>
          (Entries.get? reference.props key).or (Entries.get? component.props key) := by
  have hlaid : (component.overridden reference).view.get? field
      = keys.findSome? (Entries.get? (Entries.overlay component.props reference.props)) :=
    View.get?_ofProps hfield _
  rw [hlaid]
  exact View.findSome?_congr fun key _ => Entries.get?_overlay hdistinct

/-- What a reference gives to a field of a component is what its overrides hold under the keys of the
field, as a view of the component's type sees them. It is taken, unless the component has a prop under
a key that comes before all those of the overrides: then the prop of the component stays. It stays also
where the reference gives nothing. -/
theorem get?_overridden (component : Component) {reference : Reference}
    (hdistinct : (Entries.keys reference.props).Nodup) {field : Field} {keys : List String}
    (hfield : (field, keys) ∈ component.type.form.fields) :
    let own := component.view.get? field
    let given := (View.ofProps component.type reference.props).get? field
    let shown := (component.overridden reference).view.get? field
    (given = none ↔ ∀ key ∈ keys, key ∉ Entries.keys reference.props)
      ∧ (given = none → shown = own)
      ∧ (given ≠ none → ¬Entries.Precedes component.props reference.props keys → shown = given)
      ∧ (Entries.Precedes component.props reference.props keys → shown = own ∧ own ≠ none) := by
  intro own given shown
  have hown : own = keys.findSome? (Entries.get? component.props) := View.get?_ofProps hfield _
  have hgiven : given = keys.findSome? (Entries.get? reference.props) := View.get?_ofProps hfield _
  obtain ⟨hstays, htaken⟩ := Entries.findSome?_or component.props reference.props keys
  rw [← component.get?_view_overridden hdistinct hfield, ← hown] at hstays htaken
  rw [← hgiven] at htaken
  refine ⟨View.get?_ofProps_eq_none_iff hfield _, fun hnone => ?_, fun hsome hprecedes => ?_,
    fun hprecedes => ⟨hstays hprecedes, hown ▸ hprecedes.findSome?_ne_none⟩⟩
  · by_cases hprecedes : Entries.Precedes component.props reference.props keys
    · exact hstays hprecedes
    · exact (htaken hprecedes).trans (by rw [hnone, Option.none_or])
  · obtain ⟨value, hvalue⟩ := Option.ne_none_iff_exists'.mp hsome
    exact (htaken hprecedes).trans (by rw [hvalue, Option.some_or])

end Component

/-- A button that is used twice, with a text for its label under either key. -/
def Json.adders : Json :=
  .object
    [("pages", .object
        [("Home", .object
          [("layout", .object
            [("type", .string "VerticalStack"),
              ("children", .array
                [.object
                    [("component", .string "Add"), ("props", .object [("label", .string "New")])],
                  .object
                    [("component", .string "Add"), ("props", .object [("text", .string "New")])]])])])]),
      ("components", .object
        [("Add", .object [("type", .string "FabButton"), ("label", .string "Add")])])]

namespace Component

/-- Under the preferred key, the text of the reference is taken. -/
theorem get?_overridden_adders :
    ∃ document component stack reference,
      Document.ofJson? Json.adders = .ok document
        ∧ document.component? "Add" = some component
        ∧ (document.page? "Home").bind Page.layout = some (.inline stack)
        ∧ stack.children[0]? = some (.reference reference)
        ∧ (Entries.keys reference.props).Nodup
        ∧ (.label, ["label", "text"]) ∈ component.type.form.fields
        ∧ component.view.get? .label = some (.binding (.literal "Add"))
        ∧ (component.overridden reference).view.get? .label
          = some (.binding (.literal "New")) := by
  obtain ⟨document, component, stack, reference, hload, hcomponent, hstack, hreference, hdistinct,
      hfield, hown, hgiven, hlabel⟩ :
      ∃ document component stack reference,
        Document.ofJson? Json.adders = .ok document
          ∧ document.component? "Add" = some component
          ∧ (document.page? "Home").bind Page.layout = some (.inline stack)
          ∧ stack.children[0]? = some (.reference reference)
          ∧ (Entries.keys reference.props).Nodup
          ∧ (.label, ["label", "text"]) ∈ component.type.form.fields
          ∧ component.view.get? .label = some (.binding (.literal "Add"))
          ∧ (View.ofProps component.type reference.props).get? .label
            = some (.binding (.literal "New"))
          ∧ (Entries.get? reference.props "label").isSome = true :=
    ⟨_, _, _, _, rfl, rfl, rfl, rfl, by decide, by decide, rfl, rfl, rfl⟩
  have hfirst : ¬Entries.Precedes component.props reference.props ["label", "text"] := by
    rw [Entries.precedes_cons]
    rintro ⟨hnone, -⟩
    rw [hnone] at hlabel
    cases hlabel
  obtain ⟨-, -, htaken, -⟩ := get?_overridden component hdistinct hfield
  exact ⟨document, component, stack, reference, hload, hcomponent, hstack, hreference, hdistinct,
    hfield, hown, (htaken (by simp [hgiven]) hfirst).trans hgiven⟩

/-- Under the other key, it gives way to the label of the component, and the screen shows that. -/
theorem get?_overridden_adders_ne :
    ∃ document component stack reference,
      Document.ofJson? Json.adders = .ok document
        ∧ document.component? "Add" = some component
        ∧ (document.page? "Home").bind Page.layout = some (.inline stack)
        ∧ stack.children[1]? = some (.reference reference)
        ∧ (View.ofProps component.type reference.props).get? .label
          = some (.binding (.literal "New"))
        ∧ (component.overridden reference).view.get? .label = some (.binding (.literal "Add"))
        ∧ ((Stage.screen { document, options := { now := 0 } } (Session.initial document)).find?
            "screen/page/0/1").map Node.widget = some (.fab (some "Add") (Icon.symbolOf "add")) :=
  ⟨_, _, _, _, rfl, rfl, rfl, rfl, rfl, rfl, rfl⟩

end Component

end Wireframe
