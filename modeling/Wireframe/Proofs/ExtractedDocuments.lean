import Wireframe.Proofs.ExtractedScreens
import Wireframe.Proofs.TabIds

/-!
# Loading documents in which a component is extracted

In a document an object that is written out in a layout is replaced by a reference to a name that
occurs nowhere, and declared under the name (`Json.ExtractsFrom`, `Json.declare`). It still loads, and
is the same document but for what is extracted (`Document.extracted_ofJson?`).
-/

namespace Wireframe

namespace Json

/-- Whether in a document the object with the fields `body` is replaced in one place: in the layout of a
page, or in a component that is declared. -/
inductive ExtractsFrom (name : String) (body : Entries Json) : Entries Json → Entries Json → Prop where
  | page {value value' : Json} (h : Extracts name body .child value value') (id : String)
      (fields more pages others before after : Entries Json) :
      ExtractsFrom name body
        (before ++ ("pages", .object
          (pages ++ (id, .object (fields ++ ("layout", value) :: more)) :: others)) :: after)
        (before ++ ("pages", .object
          (pages ++ (id, .object (fields ++ ("layout", value') :: more)) :: others)) :: after)
  | component {value value' : Json} (h : Extracts name body .component value value') {part : String}
      (hpart : part ∈ ["components", "rootComponents"]) (id : String)
      (components others before after : Entries Json) :
      ExtractsFrom name body
        (before ++ (part, .object (components ++ (id, value) :: others)) :: after)
        (before ++ (part, .object (components ++ (id, value') :: others)) :: after)

/-- Declares the component with these fields in a document. -/
def declare (name : String) (body root : Entries Json) : Entries Json :=
  root.insert "components" (.object (Entries.insert (part root "components") name (.object body)))

end Json

/-! ### Entries -/

namespace Entries

variable {α : Type}

/-- Where a value is replaced, nothing is found under other keys that was not. -/
lemma get?_replaced {before after : Entries α} {key : String} {value value' : α} {other : String}
    (hne : other ≠ key) : Entries.get? (before ++ (key, value') :: after) other
      = Entries.get? (before ++ (key, value) :: after) other := by
  simp only [get?_append, get?_cons, if_neg hne.symm]

end Entries

lemma forall₂_filterMap {α β γ δ : Type} {r : α → β → Prop} {s : γ → δ → Prop} {xs : List α}
    {ys : List β} (h : List.Forall₂ r xs ys) {f : α → Option γ} {g : β → Option δ}
    (hfg : ∀ x y, r x y → Option.Rel s (f x) (g y)) :
    List.Forall₂ s (xs.filterMap f) (ys.filterMap g) := by
  induction h with
  | nil => exact .nil
  | @cons x y _ _ hr _ ih =>
    rcases rel_cases (hfg x y hr) with ⟨hnone, hnone'⟩ | ⟨a, b, hsome, hsome', hs⟩
    · rwa [List.filterMap_cons_none hnone, List.filterMap_cons_none hnone']
    · rw [List.filterMap_cons_some hsome, List.filterMap_cons_some hsome']
      exact .cons hs ih

/-! ### Sections -/

section

variable {name : String} {declared : Component}

/-- Entries are related to themselves if the name does not occur. -/
lemma entryRel_self {r : Json → Json → Prop} (hself : ∀ value, name ∉ value.texts → r value value)
    {fields : Entries Json} (hname : name ∉ Json.textsOfFields fields) :
    List.Forall₂ (EntryRel r) fields fields :=
  List.forall₂_same.mpr fun (_, value) hmem => ⟨rfl, hself value fun htext =>
    hname (Json.mem_textsOfFields.mpr ⟨_, _, hmem, .inr htext⟩)⟩

lemma entryRel_replaced {r : Json → Json → Prop}
    (hself : ∀ value, name ∉ value.texts → r value value) {before after : Entries Json}
    {key : String} {value value' : Json}
    (hname : name ∉ Json.textsOfFields (before ++ (key, value) :: after)) (h : r value value') :
    List.Forall₂ (EntryRel r) (before ++ (key, value) :: after) (before ++ (key, value') :: after) := by
  obtain ⟨hbefore, -, hafter⟩ := Json.fresh_around hname
  exact List.rel_append (entryRel_self hself hbefore) (.cons ⟨rfl, h⟩ (entryRel_self hself hafter))

variable (name declared) in
/-- Whether values declare components that are the same, but for what is extracted. -/
def DeclaresAlike (value value' : Json) : Prop :=
  Option.Rel (fun component => component.Extracted name declared)
    value.reading.component value'.reading.component

variable (name declared) in
/-- Whether values are pages that are the same, but for what is extracted. -/
def PageAlike (value value' : Json) : Prop :=
  Option.Rel (fun fields fields' => ∀ id, (readPage id fields).Extracted name declared
    (readPage id fields')) value.fields? value'.fields?

lemma declaresAlike_self (value : Json) (hname : name ∉ value.texts) :
    DeclaresAlike name declared value value :=
  (Json.alike_reading value hname).component

lemma pageAlike_self (value : Json) (hname : name ∉ value.texts) :
    PageAlike name declared value value := by
  cases value with
  | object fields =>
    refine .some fun id => ⟨rfl, rfl, rfl, ?_⟩
    simp only [readPage]
    cases hlayout : Entries.get? fields "layout" with
    | none => exact .none
    | some layout =>
      refine (Json.alike_reading layout fun htext => hname ?_).child
      exact Json.mem_textsOfFields.mpr ⟨_, _, Entries.mem_of_get? hlayout, .inr htext⟩
  | _ => exact .none

end

/-! ### Parts of documents -/

lemma filterMap_readFields (fields : Entries Json) :
    ((Json.readFields fields).filterMap fun (id, _, reading) => reading.component.map (id, ·))
      = fields.filterMap fun (id, value) => value.reading.component.map (id, ·) := by
  rw [readFields_eq_map, List.filterMap_map]
  rfl

lemma readComponents_eq (root : Entries Json) (key : String) :
    readComponents (root.get? key) = (Json.part root key).filterMap
      fun (id, value) => value.reading.component.map (id, ·) := by
  simp only [readComponents, Json.part]
  cases root.get? key with
  | none => rfl
  | some value =>
    cases value with
    | object fields => exact filterMap_readFields fields
    | _ => rfl

lemma readPages_eq (root : Entries Json) (key : String) :
    readPages (root.get? key) = (Json.part root key).filterMap
      fun (id, page) => page.fields?.map fun page => (id, readPage id page) := by
  simp only [readPages, Json.part]
  cases root.get? key with
  | none => rfl
  | some value => cases value <;> rfl

section

variable {name : String} {declared : Component} {fields fields' : Entries Json}

lemma components_alike (h : List.Forall₂ (EntryRel (DeclaresAlike name declared)) fields fields') :
    List.Forall₂ (EntryRel fun component => component.Extracted name declared)
      (fields.filterMap fun (id, value) => value.reading.component.map (id, ·))
      (fields'.filterMap fun (id, value) => value.reading.component.map (id, ·)) := by
  refine forall₂_filterMap h fun (id, value) (id', value') hentry => ?_
  obtain ⟨rfl, hvalue⟩ := hentry
  exact rel_map hvalue fun _ _ hcomponent => ⟨rfl, hcomponent⟩

lemma pages_alike (h : List.Forall₂ (EntryRel (PageAlike name declared)) fields fields') :
    List.Forall₂ (EntryRel fun page => page.Extracted name declared)
      (fields.filterMap fun (id, page) => page.fields?.map fun page => (id, readPage id page))
      (fields'.filterMap fun (id, page) => page.fields?.map fun page => (id, readPage id page)) := by
  refine forall₂_filterMap h fun (id, value) (id', value') hentry => ?_
  obtain ⟨rfl, hvalue⟩ := hentry
  exact rel_map hvalue fun _ _ hpage => ⟨rfl, hpage _⟩

end

/-- A page whose layout is replaced reads alike. -/
lemma Json.Extracts.page {name : String} {body : Entries Json} {value value' : Json}
    (h : Extracts name body .child value value') {before after : Entries Json}
    (hname : name ∉ textsOfFields (before ++ ("layout", value) :: after))
    (hbody : Child.ofJson? (.object body) = some (.inline (Component.ofFields body))) :
    PageAlike name (Component.ofFields body) (.object (before ++ ("layout", value) :: after))
      (.object (before ++ ("layout", value') :: after)) := by
  have hother : ∀ {key}, key ≠ "layout" →
      Entries.get? (before ++ ("layout", value') :: after) key
        = Entries.get? (before ++ ("layout", value) :: after) key := Entries.get?_replaced
  obtain ⟨hbefore, hvalue, -⟩ := fresh_around hname
  refine .some fun id => ⟨rfl, ?_, ?_, ?_⟩
  · simp only [readPage, Entries.string?, hother (show "title" ≠ "layout" by decide)]
  · simp only [readPage, hother (show "style" ≠ "layout" by decide)]
  · simp only [readPage, Entries.get?_append, Entries.get?_cons, if_true]
    cases hlayout : before.get? "layout" with
    | some layout =>
      refine (alike_reading layout fun htext => hbefore ?_).child
      exact mem_textsOfFields.mpr ⟨_, _, Entries.mem_of_get? hlayout, .inr htext⟩
    | none => exact h.alike hvalue hbody

namespace Json.ExtractsFrom

variable {name : String} {body root root' : Entries Json} (h : ExtractsFrom name body root root')
  (hname : name ∉ textsOfFields root)

include h in
/-- What holds nothing that is drawn is not touched. -/
lemma get?_eq {key : String} (hkey : key ∉ ["pages", "components", "rootComponents"]) :
    Entries.get? root' key = Entries.get? root key := by
  cases h with
  | page h id fields more pages others before after =>
    exact Entries.get?_replaced fun heq => hkey (by simp [heq])
  | component h hpart id components others before after =>
    exact Entries.get?_replaced fun heq => hkey (heq ▸ List.mem_cons_of_mem _ hpart)

/-- The name does not occur in a part either. -/
lemma fresh_part {root : Entries Json} (hname : name ∉ textsOfFields root) (key : String) :
    name ∉ textsOfFields (part root key) := by
  simp only [part]
  cases hget : root.get? key with
  | none => exact List.not_mem_nil
  | some value =>
    cases value with
    | object fields =>
      exact fun htext => hname
        (mem_textsOfFields.mpr ⟨_, _, Entries.mem_of_get? hget, .inr htext⟩)
    | _ => exact List.not_mem_nil

/-- What is related to itself stays so if a part is replaced that is related to what replaces it. -/
lemma rel_part {r : Entries Json → Entries Json → Prop} {before after fields fields' : Entries Json}
    {key other : String} (hself : r (part (before ++ (key, .object fields) :: after) other)
      (part (before ++ (key, .object fields) :: after) other))
    (hfields : other = key → r fields fields') :
    r (part (before ++ (key, .object fields) :: after) other)
      (part (before ++ (key, .object fields') :: after) other) := by
  simp only [part, Entries.get?_append, Entries.get?_cons] at hself ⊢
  cases hbefore : before.get? other with
  | some value =>
    rw [hbefore] at hself
    exact hself
  | none =>
    rw [hbefore] at hself
    by_cases hkey : key = other
    · simp only [hkey, if_true]
      exact hfields hkey.symm
    · simp only [hkey, if_false] at hself ⊢
      exact hself

variable (hbody : Child.ofJson? (.object body) = some (.inline (Component.ofFields body)))
include h hname hbody

lemma components (key : String) (hkey : key ∈ ["components", "rootComponents"]) :
    List.Forall₂ (EntryRel (DeclaresAlike name (Component.ofFields body))) (part root key)
      (part root' key) := by
  have hself : List.Forall₂ (EntryRel (DeclaresAlike name (Component.ofFields body)))
      (part root key) (part root key) := entryRel_self declaresAlike_self (fresh_part hname key)
  cases h with
  | page h id fields more pages others before after =>
    exact rel_part hself fun heq => absurd hkey (by simp [heq])
  | component h hpart id components others before after =>
    refine rel_part hself fun _ => ?_
    have hfresh := (fresh_around hname).2.1
    exact entryRel_replaced declaresAlike_self hfresh
      (h.component (fresh_around hfresh).2.1 hbody)

lemma pages : List.Forall₂ (EntryRel (PageAlike name (Component.ofFields body))) (part root "pages")
    (part root' "pages") := by
  have hself : List.Forall₂ (EntryRel (PageAlike name (Component.ofFields body)))
      (part root "pages") (part root "pages") :=
    entryRel_self pageAlike_self (fresh_part hname "pages")
  cases h with
  | page h id fields more pages others before after =>
    refine rel_part hself fun _ => ?_
    have hpages := (fresh_around hname).2.1
    exact entryRel_replaced pageAlike_self hpages (h.page (fresh_around hpages).2.1 hbody)
  | component h hpart id components others before after =>
    exact rel_part hself fun heq => absurd (heq ▸ hpart) (by simp)

end Json.ExtractsFrom

/-! ### The name is not used -/

section

variable {name : String} {fields root : Entries Json}

lemma fresh_of_mem (hname : name ∉ Json.textsOfFields fields) {key : String} {value : Json}
    (hmem : (key, value) ∈ fields) : key ≠ name ∧ name ∉ value.texts := by
  refine ⟨?_, fun htext => hname (Json.mem_textsOfFields.mpr ⟨key, value, hmem, .inr htext⟩)⟩
  rintro rfl
  exact hname (Json.mem_textsOfFields.mpr ⟨key, value, hmem, .inl rfl⟩)

lemma string?_ne_of_fresh (hname : name ∉ Json.textsOfFields fields) (key : String) :
    fields.string? key ≠ some name := by
  intro htext
  obtain ⟨value, hget, hvalue⟩ := Option.bind_eq_some_iff.mp htext
  exact Json.string?_ne (fresh_of_mem hname (Entries.mem_of_get? hget)).2 hvalue

lemma PropValue.eq_of_literal? {value : Json} {text : String}
    (h : (PropValue.ofJson value).literal? = some text) : value = .string text := by
  cases value with
  | string source =>
    simp only [ofJson] at h
    have hsource := Binding.source_parse source
    cases hparse : Binding.parse source with
    | literal text' =>
      rw [hparse] at h hsource
      cases h
      exact congrArg Json.string hsource.symm
    | _ => rw [hparse] at h; cases h
  | _ => cases h

lemma mem_of_mem_readFields {key : String} {value : Json} {reading : Reading}
    (h : (key, value, reading) ∈ Json.readFields fields) : (key, value) ∈ fields := by
  induction fields with
  | nil => cases h
  | cons field fields ih =>
    obtain ⟨k, v⟩ := field
    rw [Json.readFields] at h
    rcases List.mem_cons.mp h with heq | h
    · cases heq
      exact List.mem_cons_self
    · exact List.mem_cons_of_mem _ (ih h)

/-- The name does not occur in the props of a field either. -/
lemma fresh_of_mem_fields (hname : name ∉ Json.textsOfFields fields) {part key : String}
    {value : Json} {child : Option Child}
    (hmem : (key, value, child) ∈ Parts.fields (Json.readFields fields) part) :
    name ∉ value.texts := by
  simp only [Parts.fields, get?_readFields] at hmem
  cases hget : fields.get? part with
  | none =>
    rw [hget] at hmem
    cases hmem
  | some props =>
    rw [hget] at hmem
    cases props with
    | object inner =>
      obtain ⟨⟨k, v, reading⟩, hinner, heq⟩ := List.mem_map.mp hmem
      cases heq
      have hfresh := (fresh_of_mem hname (Entries.mem_of_get? hget)).2
      exact (fresh_of_mem hfresh (mem_of_mem_readFields hinner)).2
    | _ => cases hmem

/-- A prop whose value does not have the name does not give it. -/
lemma literal?_ofJson_ne {value : Json} (hname : name ∉ value.texts) :
    (PropValue.ofJson value).literal? ≠ some name := fun htext =>
  Json.string?_ne hname (by rw [PropValue.eq_of_literal? htext]; rfl)

/-- A text that a component has as a prop occurs in its fields. -/
lemma Component.literal?_ne_of_fresh (hname : name ∉ Json.textsOfFields fields) (key : String) :
    (ofFields fields).literal? key ≠ some name := by
  intro htext
  obtain ⟨prop, hprop, hliteral⟩ := Option.bind_eq_some_iff.mp htext
  have hmem : (key, prop) ∈ (ofFields fields).props := Entries.mem_of_get? hprop
  rcases List.mem_append.mp hmem with hmem | hcontent
  · rcases List.mem_append.mp hmem with hown | hfolded
    · obtain ⟨⟨k, value, child⟩, hfield, heq⟩ := List.mem_filterMap.mp hown
      dsimp only at heq
      split at heq
      · cases heq
      · cases heq
        exact literal?_ofJson_ne (fresh_of_mem_fields hname hfield) hliteral
    · obtain ⟨⟨k, value, reading⟩, hfield, heq⟩ := List.mem_filterMap.mp hfolded
      dsimp only at heq
      split at heq
      · cases heq
      · cases heq
        exact literal?_ofJson_ne (fresh_of_mem hname (mem_of_mem_readFields hfield)).2 hliteral
  · simp only [contentProp] at hcontent
    split at hcontent
    · next text hcontent' =>
      split at hcontent
      · cases hcontent
      · cases List.mem_singleton.mp hcontent
        cases hliteral
        refine string?_ne_of_fresh hname "content" ?_
        simpa [Parts.string?, Entries.string?] using hcontent'
    · cases hcontent

/-! ### The shell and the tabs -/

lemma readShell_ne {section? : Option Json} {rootShell : Option Component}
    (hsection : ∀ value ∈ section?, name ∉ value.texts)
    (hroot : ∀ component ∈ rootShell, ∀ key, component.literal? key ≠ some name) :
    (readShell section? rootShell).tabBar ≠ some name
      ∧ (readShell section? rootShell).content ≠ some name := by
  have htext : ∀ key, (Entries.string? ((section?.bind Json.fields?).getD []) key).or
      (rootShell.bind (·.literal? key)) ≠ some name := by
    intro key hsome
    rcases Option.or_eq_some_iff.mp hsome with hown | ⟨-, hliteral⟩
    · cases section? with
      | none => cases hown
      | some value =>
        cases value with
        | object fields => exact string?_ne_of_fresh (hsection _ rfl) key hown
        | _ => cases hown
    · obtain ⟨component, hcomponent, hliteral⟩ := Option.bind_eq_some_iff.mp hliteral
      exact hroot component hcomponent key hliteral
  exact ⟨htext "tabBar", htext "content"⟩

lemma target_readTab? {id : String} {json : Json} (hname : name ∉ json.texts) {tab : Tab}
    (htab : tab ∈ readTab? id json) : tab.target ≠ .content name := by
  obtain ⟨fields, hfields, rfl⟩ := Option.map_eq_some_iff.mp htab
  have hfresh : name ∉ Json.textsOfFields fields := by
    cases json with
    | object inner => cases hfields; exact hname
    | _ => cases hfields
  simp only [readTab]
  split
  · exact nofun
  · next content _ hcontent =>
    intro heq
    cases heq
    exact string?_ne_of_fresh hfresh "content" hcontent
  · exact nofun

lemma target_readTabList {explicit : List String} {index : Nat} {items : List Json}
    {tabs result : List Tab} (hname : name ∉ Json.textsOfItems items)
    (htabs : ∀ tab ∈ tabs, tab.target ≠ .content name)
    (h : readTabList explicit index tabs items = .ok result) :
    ∀ tab ∈ result, tab.target ≠ .content name := by
  induction items generalizing index tabs with
  | nil =>
    cases h
    exact htabs
  | cons json items ih =>
    rw [Json.textsOfItems, List.mem_append, not_or] at hname
    unfold readTabList at h
    extract_lets id at h
    split at h
    · cases h
    · refine ih hname.2 ?_ h
      intro tab htab
      rcases List.mem_append.mp htab with htab | htab
      · exact htabs tab htab
      · exact target_readTab? hname.1 (Option.mem_toList.mp htab)

/-- No tab leads to the name. -/
lemma target_readTabs {section? : Option Json} (hsection : ∀ value ∈ section?, name ∉ value.texts)
    {tabs : List Tab} (h : readTabs section? = .ok tabs) :
    ∀ tab ∈ tabs, tab.target ≠ .content name := by
  simp only [readTabs] at h
  split at h
  · next fields =>
    cases h
    intro tab htab
    obtain ⟨⟨id, json⟩, hmem, htab⟩ := List.mem_filterMap.mp htab
    exact target_readTab? (fresh_of_mem (hsection _ rfl) hmem).2 htab
  · exact target_readTabList (hsection _ rfl) (List.forall_mem_nil _) h
  · cases h
    exact List.forall_mem_nil _

end

/-! ### Documents -/

/-- The object that is extracted does not have the name either. -/
lemma Json.Extracts.fresh_body {name : String} {body : Entries Json} {role : Role}
    {value value' : Json} (h : Extracts name body role value value') (hname : name ∉ value.texts) :
    name ∉ textsOfFields body := by
  induction h with
  | here => exact hname
  | written _ _ ih => exact ih hname
  | item h items more before after ih =>
    refine ih fun htext => (fresh_around hname).2.1 ?_
    exact mem_textsOfItems.mpr ⟨_, by simp, htext⟩
  | slot h slot before after ih => exact ih (fresh_around hname).2.1
  | prop h slot props more before after ih =>
    have hprops := (fresh_around hname).2.1
    exact ih (fresh_around hprops).2.1
  | layout h hkeeps before after ih => exact ih (fresh_around hname).2.1
  | embedded h before after ih => exact ih (fresh_around hname).2.1

lemma Json.ExtractsFrom.fresh_body {name : String} {body root root' : Entries Json}
    (h : ExtractsFrom name body root root') (hname : name ∉ textsOfFields root) :
    name ∉ textsOfFields body := by
  cases h with
  | page h id fields more pages others before after =>
    have hpages := (fresh_around hname).2.1
    have hpage := (fresh_around hpages).2.1
    exact h.fresh_body (fresh_around hpage).2.1
  | component h hpart id components others before after =>
    have hcomponents := (fresh_around hname).2.1
    exact h.fresh_body (fresh_around hcomponents).2.1

namespace Document

variable {name : String} {body root root' : Entries Json}

/-- A component that a document declares does not have the name as a prop. -/
lemma literal?_ne_of_mem_readComponents (hname : name ∉ Json.textsOfFields root) {part id : String}
    {component : Component} (hmem : (id, component) ∈ readComponents (Entries.get? root part))
    (key : String) : component.literal? key ≠ some name := by
  rw [readComponents_eq] at hmem
  obtain ⟨⟨id', value⟩, hentry, hread⟩ := List.mem_filterMap.mp hmem
  have hvalue := (fresh_of_mem (Json.ExtractsFrom.fresh_part hname part) hentry).2
  cases value with
  | object fields =>
    cases hread
    exact Component.literal?_ne_of_fresh hvalue key
  | _ => cases hread

/-- No component has the name that does not occur. -/
lemma get?_readComponents_of_fresh (hname : name ∉ Json.textsOfFields root) (part : String) :
    Entries.get? (readComponents (Entries.get? root part)) name = none := by
  rw [Option.eq_none_iff_forall_ne_some]
  intro component hget
  rw [readComponents_eq] at hget
  obtain ⟨⟨id, value⟩, hentry, hread⟩ := List.mem_filterMap.mp (Entries.mem_of_get? hget)
  obtain ⟨_, -, heq⟩ := Option.map_eq_some_iff.mp hread
  cases heq
  exact (fresh_of_mem (Json.ExtractsFrom.fresh_part hname part) hentry).1 rfl

lemma readShell_alike {rootShell rootShell' : Option Component} {declared : Component}
    (h : Option.Rel (fun component => component.Extracted name declared) rootShell rootShell')
    (section? : Option Json) : readShell section? rootShell' = readShell section? rootShell := by
  rcases rel_cases h with ⟨rfl, rfl⟩ | ⟨component, component', rfl, rfl, hcomponent⟩
  · rfl
  · have hliteral : component'.literal? = component.literal? :=
      (congrArg Component.literal? hcomponent.bare :)
    simp only [readShell, Option.bind_some, hliteral, hcomponent.style]

lemma tabOrder?_alike {shell : Shell} {components components' rootComponents rootComponents' :
      Entries Component} {declared : Component}
    (hcomponents : List.Forall₂ (EntryRel fun component => component.Extracted name declared)
      components components')
    (hroot : List.Forall₂ (EntryRel fun component => component.Extracted name declared)
      rootComponents rootComponents')
    (hbar : shell.tabBar ≠ some name) :
    tabOrder? shell (components' ++ [(name, declared)]) rootComponents'
      = tabOrder? shell components rootComponents := by
  simp only [tabOrder?]
  cases hid : shell.tabBar with
  | none => rfl
  | some id =>
    have hne : id ≠ name := fun heq => hbar (hid.trans (congrArg some heq))
    have hget : Entries.get? (components' ++ [(name, declared)]) id = components'.get? id := by
      simp [Entries.get?_append, hne.symm]
    simp only [Option.bind_eq_bind, Option.bind_some, hget]
    rcases rel_cases (rel_or (Entries.rel_get? hroot id) (Entries.rel_get? hcomponents id)) with
      ⟨hnone, hnone'⟩ | ⟨bar, bar', hsome, hsome', hextracted⟩
    · rw [hnone, hnone']
    · have hprop : bar'.prop? "tabs" = bar.prop? "tabs" :=
        (congrArg (Component.prop? · "tabs") hextracted.bare :)
      rw [hsome, hsome', Option.bind_some, Option.bind_some, hextracted.type, hprop]

/-- The shell does not show what has the name. -/
lemma shellOf_ne (hname : name ∉ Json.textsOfFields root) :
    (shellOf root).tabBar ≠ some name ∧ (shellOf root).content ≠ some name :=
  readShell_ne (fun _ hvalue => (fresh_of_mem hname (Entries.mem_of_get? hvalue)).2)
    fun _ hcomponent => literal?_ne_of_mem_readComponents hname (Entries.mem_of_get? hcomponent)

variable {document : Document}

/-- No tab of the document leads to the name. -/
lemma target_ne_of_ofJson? (hname : name ∉ Json.textsOfFields root)
    (hload : ofJson? (.object root) = .ok document) :
    ∀ tab ∈ document.tabs, tab.target ≠ .content name := by
  obtain ⟨declared, hdeclared, hperm⟩ := exists_perm_of_ofJson? hload
  have htargets := target_readTabs
    (fun _ hvalue => (fresh_of_mem hname (Entries.mem_of_get? hvalue)).2) hdeclared
  exact fun tab htab => htargets tab (hperm.mem_iff.mp htab)

/-! ### The document in which a component is extracted -/

lemma get?_declare_of_ne {key : String} (hkey : key ≠ "components") :
    Entries.get? (Json.declare name body root) key = Entries.get? root key :=
  Entries.get?_insert_of_ne _ _ hkey.symm

section

variable (h : Json.ExtractsFrom name body root root')
include h

lemma get?_declare {key : String} (hkey : key ∉ ["pages", "components", "rootComponents"]) :
    Entries.get? (Json.declare name body root') key = Entries.get? root key := by
  rw [get?_declare_of_ne fun heq => hkey (by simp [heq]), h.get?_eq hkey]

variable (hname : name ∉ Json.textsOfFields root)
  (hbody : Child.ofJson? (.object body) = some (.inline (Component.ofFields body)))
include hname hbody

/-- What is declared is read besides what is left of the components. -/
lemma readComponents_declare :
    readComponents (Entries.get? (Json.declare name body root') "components")
      = readComponents (Entries.get? root' "components") ++ [(name, Component.ofFields body)] := by
  have hkeys : name ∉ Entries.keys (Json.part root' "components") := by
    rw [Entries.keys_eq (h.components hname hbody "components" (by simp))]
    intro hmem
    obtain ⟨⟨key, value⟩, hentry, rfl⟩ := List.mem_map.mp hmem
    exact (fresh_of_mem (Json.ExtractsFrom.fresh_part hname "components") hentry).1 rfl
  have hpart : Json.part (Json.declare name body root') "components"
      = Json.part root' "components" ++ [(name, .object body)] := by
    rw [Json.declare, Json.part_insert_self, Entries.insert_of_notMem hkeys]
  rw [readComponents_eq, readComponents_eq, hpart, List.filterMap_append]
  rfl

lemma extracted_components :
    List.Forall₂ (EntryRel fun component => component.Extracted name (Component.ofFields body))
      (readComponents (Entries.get? root "components"))
      (readComponents (Entries.get? root' "components")) := by
  rw [readComponents_eq, readComponents_eq]
  exact components_alike (h.components hname hbody "components" (by simp))

lemma extracted_rootComponents :
    List.Forall₂ (EntryRel fun component => component.Extracted name (Component.ofFields body))
      (readComponents (Entries.get? root "rootComponents"))
      (readComponents (Entries.get? (Json.declare name body root') "rootComponents")) := by
  rw [get?_declare_of_ne (show "rootComponents" ≠ "components" by decide), readComponents_eq,
    readComponents_eq]
  exact components_alike (h.components hname hbody "rootComponents" (by simp))

lemma extracted_pages :
    List.Forall₂ (EntryRel fun page => page.Extracted name (Component.ofFields body))
      (readPages (Entries.get? root "pages"))
      (readPages (Entries.get? (Json.declare name body root') "pages")) := by
  rw [get?_declare_of_ne (show "pages" ≠ "components" by decide), readPages_eq, readPages_eq]
  exact pages_alike (h.pages hname hbody)

lemma shellOf_declare : shellOf (Json.declare name body root') = shellOf root := by
  rw [shellOf, get?_declare h (show "shell" ∉ _ by decide)]
  exact readShell_alike (Entries.rel_get? (extracted_rootComponents h hname hbody) "shell") _

/-- The tabs are in the same order. -/
lemma ordersTabs_declare {declared tabs : List Tab} (horder : OrdersTabs root declared tabs) :
    OrdersTabs (Json.declare name body root') declared tabs := by
  rw [OrdersTabs, shellOf_declare h hname hbody, readComponents_declare h hname hbody,
    tabOrder?_alike (extracted_components h hname hbody) (extracted_rootComponents h hname hbody)
      (shellOf_ne hname).1]
  exact horder

/-- The document in which a component is extracted loads too, and is the same otherwise. -/
theorem extracted_ofJson? (hsnackbar : (Component.ofFields body).type ≠ .snackbar)
    (hload : ofJson? (.object root) = .ok document) :
    ∃ other, ofJson? (.object (Json.declare name body root')) = .ok other
      ∧ document.Extracted name (Component.ofFields body) other := by
  have htargets := target_ne_of_ofJson? hname hload
  obtain ⟨declared, tabs, hdeclared, horder, rfl⟩ := ofJson?_eq_ok.mp hload
  obtain ⟨hbar, hcontent⟩ := shellOf_ne hname
  refine ⟨ofRoot (Json.declare name body root') tabs, ofJson?_eq_ok.mpr
    ⟨declared, tabs, ?_, ordersTabs_declare h hname hbody horder, rfl⟩, ?_⟩
  · rw [get?_declare h (show "tabs" ∉ _ by decide), hdeclared]
  · exact
      { shell := shellOf_declare h hname hbody
        tabs := rfl
        sampleData := congrArg readData (get?_declare h (by decide))
        state := congrArg readData (get?_declare h (by decide))
        styles := congrArg StyleLibrary.ofJson? (get?_declare h (by decide))
        pages := extracted_pages h hname hbody
        components := ⟨_, extracted_components h hname hbody, readComponents_declare h hname hbody⟩
        rootComponents := extracted_rootComponents h hname hbody
        itself := Component.extracted_ofParts (Json.alike_readFields body (h.fresh_body hname))
        noSnackbar := hsnackbar
        undeclared := Option.or_eq_none_iff.mpr
          ⟨get?_readComponents_of_fresh hname _, get?_readComponents_of_fresh hname _⟩
        tabBar := hbar
        content := hcontent
        targets := htargets }

end

end Document

end Wireframe
