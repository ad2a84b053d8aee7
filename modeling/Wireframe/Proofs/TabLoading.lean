import Wireframe.Proofs.Naming
import Wireframe.Proofs.TabIds
import Mathlib.Data.List.Duplicate
import Mathlib.Data.List.Sublists

/-!
# Loading the tabs of a document

Which tabs a document declares, told without the loop that reads them: an object in the section is
a tab, called by its key or its own id, or by the first free number. Loading fails just if an id is
given twice in a list, or if the tab bar names a declared tab twice. Otherwise the document has the
declared tabs and no other ones, those that the tab bar names before the rest
(`Document.loaded_tabs`).
-/

namespace Wireframe

/-! ### Declared tabs -/

/-- Whether a number is the first one from `index` on with an id `tab-n` that is not taken. -/
structure FirstFree (taken : List String) (index n : Nat) : Prop where
  le : index ≤ n
  free : "tab-" ++ n.repr ∉ taken
  first : ∀ m, index ≤ m → m < n → "tab-" ++ m.repr ∈ taken

/-- What an entry of a list of tabs is called: as it says itself, else by its place or the next one
that is free. -/
inductive EntryId (taken : List String) (index : Nat) (json : Json) : String → Prop where
  | own {id : String} (h : explicitTabId? json = some id) : EntryId taken index json id
  | generated {n : Nat} (h : explicitTabId? json = none) (hn : FirstFree taken index n) :
      EntryId taken index json ("tab-" ++ n.repr)

/-- Whether these are the tabs that the entries of a list declare from an index on: one for each
object. Taken are the ids that any entry gives itself, and those of the tabs before. -/
inductive ListsTabs (explicit : List String) : Nat → List Tab → List Json → List Tab → Prop where
  | nil {index : Nat} {before : List Tab} : ListsTabs explicit index before [] []
  | skip {index : Nat} {before tabs : List Tab} {json : Json} {items : List Json}
      (hjson : json.fields? = none) (rest : ListsTabs explicit (index + 1) before items tabs) :
      ListsTabs explicit index before (json :: items) tabs
  | tab {index : Nat} {before tabs : List Tab} {fields : Entries Json} {id : String}
      {items : List Json} (hid : EntryId (explicit ++ before.map Tab.id) index (.object fields) id)
      (rest : ListsTabs explicit (index + 1) (before ++ [readTab id fields]) items tabs) :
      ListsTabs explicit index before (.object fields :: items) (readTab id fields :: tabs)

/-- Whether these are the tabs that a section declares, in the order of their declaration. -/
def DeclaresTabs (section? : Option Json) (tabs : List Tab) : Prop :=
  match section? with
  | some (.object fields) =>
    tabs = fields.filterMap fun (id, json) => json.fields?.map (readTab id)
  | some (.array items) => ListsTabs (items.filterMap explicitTabId?) 0 [] items tabs
  | _ => tabs = []

/-- The ids that the shell's tab bar names. -/
def tabBarNames (root : Entries Json) : List String :=
  let components := readComponents (root.get? "components")
  let rootComponents := readComponents (root.get? "rootComponents")
  let shell := readShell (root.get? "shell") (rootComponents.get? "shell")
  (tabOrder? shell components rootComponents).getD []

/-- Whether an id is given twice by the entries of a list of tabs, or is one of a tab and named twice
by the tab bar. -/
inductive RepeatsTab (root : Entries Json) (id : String) : Prop where
  | entries {items : List Json} (hitems : root.get? "tabs" = some (.array items))
      (hid : (items.filterMap explicitTabId?).Duplicate id)
  | names {declared : List Tab} (hdeclared : DeclaresTabs (root.get? "tabs") declared)
      (hid : id ∈ declared.map Tab.id) (hnames : (tabBarNames root).Duplicate id)

/-- Whether these are the declared tabs, those that the tab bar names before the rest and in its
order. -/
structure ArrangesTabs (names : List String) (declared tabs : List Tab) : Prop where
  perm : tabs.Perm declared
  order : ∃ first, tabs = first ++ declared.filter (·.id ∉ names)
    ∧ first.map Tab.id = names.filter (· ∈ declared.map Tab.id)

/-! ### Ids of entries -/

variable {explicit taken : List String} {index : Nat} {before tabs tabs' result : List Tab}
  {items : List Json}

lemma FirstFree.unique {m n : Nat} (h : FirstFree taken index m) (h' : FirstFree taken index n) :
    m = n := by
  rcases Nat.lt_trichotomy m n with hlt | heq | hlt
  · exact absurd (h'.first m h.le hlt) h.free
  · exact heq
  · exact absurd (h.first n h'.le hlt) h'.free

lemma EntryId.unique {json : Json} {id id' : String} (h : EntryId taken index json id)
    (h' : EntryId taken index json id') : id = id' := by
  cases h with
  | own hid =>
    cases h' with
    | own hid' => exact Option.some.inj (hid.symm.trans hid')
    | generated hnone => cases hid.symm.trans hnone
  | generated hnone hn =>
    cases h' with
    | own hid' => cases hid'.symm.trans hnone
    | generated _ hn' => rw [hn.unique hn']

lemma EntryId.own_or_notMem {json : Json} {id : String} (h : EntryId taken index json id) :
    explicitTabId? json = some id ∨ id ∉ taken := by
  cases h with
  | own hid => exact .inl hid
  | generated _ hn => exact .inr hn.free

lemma tabId_injective : Function.Injective fun n : Nat => "tab-" ++ n.repr := by
  intro m n h
  refine repr_injective (String.toList_injective ?_)
  simpa using congrArg String.toList h

/-- Among more numbers than there are ids, one is free. -/
lemma exists_firstFree (index : Nat) (taken : List String) :
    ∃ n, FirstFree taken index n ∧ freeTabId index taken = "tab-" ++ n.repr := by
  let ids := (List.range (taken.length + 1)).map fun n => "tab-" ++ Nat.repr (index + n)
  have hnodup : ids.Nodup := List.nodup_range.map fun m n h => by
    have := tabId_injective h
    omega
  have hfree : ∃ id ∈ ids, decide (id ∉ taken) = true := by
    by_contra hall
    have htaken : ∀ id ∈ ids, id ∈ taken := by simpa using hall
    have hlength := (List.subperm_of_subset hnodup htaken).length_le
    simp only [ids, List.length_map, List.length_range] at hlength
    omega
  obtain ⟨id, hid⟩ := Option.isSome_iff_exists.mp (List.find?_isSome.mpr hfree)
  obtain ⟨hnotin, i, hi, rfl, hbefore⟩ := List.find?_eq_some_iff_getElem.mp hid
  simp only [ids, List.getElem_map, List.getElem_range, decide_eq_true_eq] at hnotin
  refine ⟨index + i, ⟨Nat.le_add_right _ _, hnotin, fun m hm hlt => ?_⟩, ?_⟩
  · have hprevious := hbefore (m - index) (by omega)
    simpa [ids, Nat.add_sub_cancel' hm] using hprevious
  · rw [freeTabId, hid, Option.getD_some]
    simp [ids]

/-- The id that reading gives to an entry. -/
def entryTabId (explicit : List String) (index : Nat) (before : List Tab) (json : Json) : String :=
  match explicitTabId? json with
  | some id => id
  | none => freeTabId index (explicit ++ before.map (·.id))

lemma entryId_entryTabId (explicit : List String) (index : Nat) (before : List Tab) (json : Json) :
    EntryId (explicit ++ before.map Tab.id) index json (entryTabId explicit index before json) := by
  rw [entryTabId]
  split
  · next id hid => exact .own hid
  · next hnone =>
    obtain ⟨n, hn, hfree⟩ := exists_firstFree index (explicit ++ before.map Tab.id)
    rw [hfree]
    exact .generated hnone hn

lemma readTabList_cons (json : Json) (items : List Json) :
    readTabList explicit index before (json :: items)
      = if entryTabId explicit index before json ∈ before.map Tab.id then
          .error (.duplicateTab (entryTabId explicit index before json))
        else readTabList explicit (index + 1)
          (before ++ (readTab? (entryTabId explicit index before json) json).toList) items := rfl

/-! ### Lists -/

lemma ListsTabs.unique (h : ListsTabs explicit index before items tabs)
    (h' : ListsTabs explicit index before items tabs') : tabs = tabs' := by
  induction h generalizing tabs' with
  | nil =>
    cases h'
    rfl
  | skip hjson _ ih =>
    cases h' with
    | skip _ rest => exact ih rest
    | tab _ _ => cases hjson
  | tab hid _ ih =>
    cases h' with
    | skip hjson _ => cases hjson
    | tab hid' rest =>
      cases hid.unique hid'
      rw [ih rest]

/-- The ids that entries give themselves are ids of tabs. -/
lemma ListsTabs.sublist_explicit (h : ListsTabs explicit index before items tabs) :
    (items.filterMap explicitTabId?).Sublist (tabs.map Tab.id) := by
  induction h with
  | nil => exact .slnil
  | @skip _ _ _ json _ hjson _ ih =>
    have hnone : explicitTabId? json = none := by rw [explicitTabId?, Json.get?, hjson]; rfl
    rwa [List.filterMap_cons_none hnone]
  | @tab _ _ _ fields id items hid _ ih =>
    rw [List.map_cons]
    cases hid with
    | own hid => rw [List.filterMap_cons_some hid]; exact ih.cons_cons id
    | generated hnone _ => rw [List.filterMap_cons_none hnone]; exact ih.cons _

lemma exists_listsTabs (h : readTabList explicit index before items = .ok result) :
    ∃ tabs, ListsTabs explicit index before items tabs ∧ result = before ++ tabs := by
  induction items generalizing index before with
  | nil =>
    cases h
    exact ⟨[], .nil, (List.append_nil _).symm⟩
  | cons json items ih =>
    rw [readTabList_cons] at h
    split at h
    · cases h
    · obtain ⟨tabs, htabs, rfl⟩ := ih h
      have hid := entryId_entryTabId explicit index before json
      cases hjson : json.fields? with
      | none =>
        have hnone : readTab? (entryTabId explicit index before json) json = none := by
          rw [readTab?, hjson]; rfl
        rw [hnone, Option.toList_none, List.append_nil] at htabs ⊢
        exact ⟨tabs, .skip hjson htabs, rfl⟩
      | some fields =>
        cases json with
        | object _ =>
          cases hjson
          exact ⟨_, .tab hid htabs, by simp [readTab?, Json.fields?]⟩
        | _ => cases hjson

lemma duplicate_append {α : Type} {a : α} {before after : List α} (hbefore : a ∈ before)
    (hafter : a ∈ after) : (before ++ after).Duplicate a :=
  List.duplicate_iff_sublist.mpr
    ((List.singleton_sublist.mpr hbefore).append (List.singleton_sublist.mpr hafter))

/-- A list is refused only for an id that an entry gives itself and an earlier one has given itself:
the ids of the tabs before are such ids, or are given by no entry. -/
lemma duplicate_of_readTabList {seen : List String} {error : LoadError}
    (hexplicit : explicit = seen ++ items.filterMap explicitTabId?)
    (hbefore : ∀ tab ∈ before, tab.id ∈ explicit → tab.id ∈ seen)
    (h : readTabList explicit index before items = .error error) :
    ∃ id, error = .duplicateTab id ∧ explicit.Duplicate id := by
  -- `seen` holds the ids that the entries before gave themselves.
  induction items generalizing index before seen with
  | nil => cases h
  | cons json items ih =>
    have hid := (entryId_entryTabId explicit index before json).own_or_notMem
    rw [readTabList_cons] at h
    generalize entryTabId explicit index before json = id at h hid
    split at h
    · next hmem =>
      cases h
      obtain hown | hnotin := hid
      · refine ⟨id, rfl, ?_⟩
        rw [List.filterMap_cons_some hown] at hexplicit
        obtain ⟨tab, htab, rfl⟩ := List.mem_map.mp hmem
        have hseen := hbefore tab htab (by simp [hexplicit])
        rw [hexplicit]
        exact duplicate_append hseen List.mem_cons_self
      · exact absurd (List.mem_append_right explicit hmem) hnotin
    · have hseen : explicit = seen ++ (explicitTabId? json).toList
          ++ items.filterMap explicitTabId? := by
        rw [hexplicit, List.filterMap_cons]
        cases explicitTabId? json <;> simp
      refine ih hseen ?_ h
      intro tab htab hmem
      rcases List.mem_append.mp htab with htab | htab
      · exact List.mem_append_left _ (hbefore tab htab hmem)
      · rw [id_of_mem_readTab? (Option.mem_toList.mp htab)] at hmem ⊢
        obtain hown | hnotin := hid
        · simp [hown]
        · exact absurd (List.mem_append_left _ hmem) hnotin

/-! ### Sections -/

variable {section? : Option Json} {declared : List Tab}

lemma DeclaresTabs.unique (h : DeclaresTabs section? tabs) (h' : DeclaresTabs section? tabs') :
    tabs = tabs' := by
  match section?, h, h' with
  | some (.object _), h, h' => exact Eq.trans h (Eq.symm h')
  | some (.array _), h, h' => exact ListsTabs.unique h h'
  | none, h, h' | some .null, h, h' | some (.bool _), h, h' | some (.number _), h, h'
  | some (.string _), h, h' => exact Eq.trans h (Eq.symm h')

lemma declaresTabs_readTabs (h : readTabs section? = .ok declared) :
    DeclaresTabs section? declared := by
  match section?, h with
  | some (.object _), h =>
    cases h
    rfl
  | some (.array _), h =>
    obtain ⟨tabs, htabs, rfl⟩ := exists_listsTabs h
    exact htabs
  | none, h | some .null, h | some (.bool _), h | some (.number _), h | some (.string _), h =>
    cases h
    rfl

/-- A section is refused only if it is a list with an id that is given twice. -/
lemma readTabs_eq_error {error : LoadError} (h : readTabs section? = .error error) :
    ∃ items id, section? = some (.array items) ∧ error = .duplicateTab id
      ∧ (items.filterMap explicitTabId?).Duplicate id := by
  simp only [readTabs] at h
  split at h
  · cases h
  · next items =>
    obtain ⟨id, herror, hid⟩ := duplicate_of_readTabList (List.nil_append _).symm (by simp) h
    exact ⟨items, id, rfl, herror, hid⟩
  · cases h

lemma nodup_explicit_of_readTabs (h : readTabs (some (.array items)) = .ok declared) :
    (items.filterMap explicitTabId?).Nodup := by
  have hids := @nodup_ids_readTabList [] _ _ _ _ List.nodup_nil h
  obtain ⟨tabs, htabs, rfl⟩ := exists_listsTabs h
  exact htabs.sublist_explicit.nodup hids

/-! ### The order of the tab bar -/

/-- Taking the tab with an id away leaves those with other ids. -/
lemma eraseP_id_eq (hids : (tabs.map Tab.id).Nodup) (id : String) :
    tabs.eraseP (·.id = id) = tabs.filter (·.id ≠ id) := by
  induction tabs with
  | nil => rfl
  | cons tab tabs ih =>
    obtain ⟨hnotin, hids⟩ := List.nodup_cons.mp hids
    by_cases htab : tab.id = id
    · subst htab
      have hothers : ∀ other ∈ tabs, decide (other.id ≠ tab.id) = true := fun other hother =>
        decide_eq_true fun heq => hnotin (heq ▸ List.mem_map_of_mem hother)
      rw [List.eraseP_cons_of_pos (by simp), List.filter_cons_of_neg (by simp),
        List.filter_eq_self.mpr hothers]
    · rw [List.eraseP_cons_of_neg (by simpa using htab),
        List.filter_cons_of_pos (by simpa using htab), ih hids]

/-- What the order of a tab bar makes of tabs: those that it names come behind the first ones, and
it names none of these, and none twice. -/
structure TakesTabs (first tabs : List Tab) (order : List String) (result : List Tab) : Prop where
  arranged : ∃ picked, result = first ++ picked ++ tabs.filter (·.id ∉ order)
    ∧ picked.map Tab.id = order.filter (· ∈ tabs.map Tab.id)
  apart : ∀ id ∈ order, id ∉ first.map Tab.id
  once : ∀ id ∈ tabs.map Tab.id, ¬order.Duplicate id

variable {first : List Tab} {order : List String} {tab : Tab} {id : String}

lemma TakesTabs.nil : TakesTabs first tabs [] (first ++ tabs) :=
  ⟨⟨[], by simp, rfl⟩, by simp, by simp⟩

/-- A tab is put first: the others are the same without it, as its id does not come again. -/
lemma TakesTabs.take (hfirst : tab.id ∉ first.map Tab.id) (htab : tab ∈ tabs)
    (h : TakesTabs (first ++ [tab]) (tabs.filter (·.id ≠ tab.id)) order result) :
    TakesTabs first tabs (tab.id :: order) result := by
  have hagain : tab.id ∉ order := fun hmem => h.apart _ hmem (by simp)
  have hothers : ∀ id ∈ order,
      (id ∈ (tabs.filter (·.id ≠ tab.id)).map Tab.id ↔ id ∈ tabs.map Tab.id) := by
    intro id hid
    have hne : id ≠ tab.id := ne_of_mem_of_not_mem hid hagain
    simp only [List.mem_map, List.mem_filter, decide_eq_true_eq]
    exact ⟨fun ⟨other, ⟨hother, _⟩, heq⟩ => ⟨other, hother, heq⟩,
      fun ⟨other, hother, heq⟩ => ⟨other, ⟨hother, heq ▸ hne⟩, heq⟩⟩
  obtain ⟨picked, rfl, hpicked⟩ := h.arranged
  refine ⟨⟨tab :: picked, ?_, ?_⟩, ?_, ?_⟩
  · simp [List.filter_filter, Bool.and_comm]
  · rw [List.map_cons, hpicked, List.filter_cons_of_pos (by simpa using List.mem_map_of_mem htab)]
    exact congrArg _ (List.filter_congr fun id hid => decide_eq_decide.mpr (hothers id hid))
  · refine List.forall_mem_cons.mpr ⟨hfirst, fun id hid hmem => h.apart id hid ?_⟩
    exact List.map_append ▸ List.mem_append_left _ hmem
  · intro id hid hduplicate
    rcases List.duplicate_cons_iff.mp hduplicate with ⟨rfl, hmem⟩ | hduplicate
    · exact hagain hmem
    · exact h.once id ((hothers id hduplicate.mem).mpr hid) hduplicate

/-- An id that no tab has is as good as not named. -/
lemma TakesTabs.skip (hfirst : id ∉ first.map Tab.id) (hid : id ∉ tabs.map Tab.id)
    (h : TakesTabs first tabs order result) : TakesTabs first tabs (id :: order) result := by
  have hothers : tabs.filter (·.id ∉ id :: order) = tabs.filter (·.id ∉ order) := by
    refine List.filter_congr fun tab htab => decide_eq_decide.mpr ?_
    have hne : tab.id ≠ id := ne_of_mem_of_not_mem (List.mem_map_of_mem htab) hid
    simp [hne]
  refine ⟨?_, List.forall_mem_cons.mpr ⟨hfirst, h.apart⟩, fun other hother hduplicate => ?_⟩
  · rw [hothers, List.filter_cons_of_neg (by simpa using hid)]
    exact h.arranged
  · have hne : other ≠ id := ne_of_mem_of_not_mem hother hid
    exact h.once other hother (hduplicate.of_duplicate_cons hne)

lemma takesTabs_orderTabs (hids : ((first ++ tabs).map Tab.id).Nodup)
    (h : orderTabs first tabs order = .ok result) : TakesTabs first tabs order result := by
  induction order generalizing first tabs with
  | nil =>
    cases h
    exact .nil
  | cons id order ih =>
    rw [orderTabs] at h
    split at h
    · cases h
    · next hfirst =>
      split at h
      · next tab hfind =>
        obtain rfl : tab.id = id := by simpa using List.find?_some hfind
        have hmoved := (perm_cons_eraseP hfind).append_left first
        rw [List.append_cons] at hmoved
        have hrest := ih ((hmoved.map Tab.id).nodup_iff.mpr hids) h
        rw [List.map_append] at hids
        rw [eraseP_id_eq (List.nodup_append.mp hids).2.1] at hrest
        exact .take hfirst (List.mem_of_find?_eq_some hfind) hrest
      · next hfind =>
        have hid : id ∉ tabs.map Tab.id := by simpa using List.find?_eq_none.mp hfind
        exact .skip hfirst hid (ih hids h)

lemma orderTabs_eq_error {error : LoadError}
    (h : orderTabs first tabs order = .error error) :
    ∃ id, error = .duplicateTab id
      ∧ (id ∈ first.map Tab.id ∧ id ∈ order ∨ id ∈ tabs.map Tab.id ∧ order.Duplicate id) := by
  induction order generalizing first tabs with
  | nil => cases h
  | cons id order ih =>
    rw [orderTabs] at h
    split at h
    · next hfirst =>
      cases h
      exact ⟨id, rfl, .inl ⟨hfirst, List.mem_cons_self⟩⟩
    · split at h
      · next tab hfind =>
        have hid : tab.id = id := by simpa using List.find?_some hfind
        have htab : tab ∈ tabs := List.mem_of_find?_eq_some hfind
        obtain ⟨twice, rfl, ⟨hmem, horder⟩ | ⟨hmem, horder⟩⟩ := ih h
        · refine ⟨twice, rfl, ?_⟩
          rcases List.mem_append.mp (List.map_append ▸ hmem) with hmem | hmem
          · exact .inl ⟨hmem, List.mem_cons_of_mem _ horder⟩
          · have heq : twice = id := by simpa [hid] using hmem
            subst heq
            exact .inr ⟨hid ▸ List.mem_map_of_mem htab, List.Mem.duplicate_cons_self horder⟩
        · refine ⟨twice, rfl, .inr ⟨?_, horder.duplicate_cons _⟩⟩
          exact (List.eraseP_sublist.map Tab.id).subset hmem
      · obtain ⟨twice, rfl, ⟨hmem, horder⟩ | ⟨hmem, horder⟩⟩ := ih h
        · exact ⟨twice, rfl, .inl ⟨hmem, List.mem_cons_of_mem _ horder⟩⟩
        · exact ⟨twice, rfl, .inr ⟨hmem, horder.duplicate_cons _⟩⟩

/-! ### Documents -/

namespace Document

variable {root : Entries Json} {document : Document}

/-- Loading reads the declared tabs, and puts those first that the tab bar names. -/
lemma map_tabs_ofJson? (root : Entries Json) :
    (ofJson? (.object root)).map Document.tabs
      = (readTabs (root.get? "tabs")).bind fun declared =>
          orderTabs [] declared (tabBarNames root) := by
  simp only [ofJson?, tabBarNames]
  cases readTabs (root.get? "tabs") with
  | error error => rfl
  | ok declared =>
    simp only [Except.bind]
    split
    · next order horder =>
      rw [horder, Option.getD_some]
      change ((orderTabs [] declared order).bind _).map Document.tabs = orderTabs [] declared order
      cases orderTabs [] declared order <;> rfl
    · next horder =>
      rw [horder]
      rfl

lemma exists_repeatsTab {error : LoadError} (h : ofJson? (.object root) = .error error) :
    ∃ id, error = .duplicateTab id ∧ RepeatsTab root id := by
  have hmap := map_tabs_ofJson? root
  rw [h] at hmap
  cases hdeclared : readTabs (root.get? "tabs") with
  | error error' =>
    rw [hdeclared] at hmap
    cases hmap
    obtain ⟨items, id, hitems, rfl, hid⟩ := readTabs_eq_error hdeclared
    exact ⟨id, rfl, .entries hitems hid⟩
  | ok declared =>
    rw [hdeclared] at hmap
    obtain ⟨id, rfl, ⟨hmem, -⟩ | ⟨hmem, hnames⟩⟩ := orderTabs_eq_error hmap.symm
    · cases hmem
    · exact ⟨id, rfl, .names (declaresTabs_readTabs hdeclared) hmem hnames⟩

lemma exists_takesTabs (hroot : (Json.object root).hasDistinctKeys = true)
    (h : ofJson? (.object root) = .ok document) :
    ∃ declared, readTabs (root.get? "tabs") = .ok declared
      ∧ TakesTabs [] declared (tabBarNames root) document.tabs := by
  have hmap := map_tabs_ofJson? root
  rw [h] at hmap
  cases hdeclared : readTabs (root.get? "tabs") with
  | error error =>
    rw [hdeclared] at hmap
    cases hmap
  | ok declared =>
    rw [hdeclared] at hmap
    have hids := nodup_ids_readTabs (fun _ => Json.hasDistinctKeys_of_get? hroot) hdeclared
    exact ⟨declared, rfl, takesTabs_orderTabs hids hmap.symm⟩

lemma not_repeatsTab (hroot : (Json.object root).hasDistinctKeys = true)
    (h : ofJson? (.object root) = .ok document) (id : String) : ¬RepeatsTab root id := by
  obtain ⟨declared, hdeclared, htakes⟩ := exists_takesTabs hroot h
  intro hrepeats
  cases hrepeats with
  | entries hitems hid =>
    rw [hitems] at hdeclared
    exact hid.not_nodup (nodup_explicit_of_readTabs hdeclared)
  | names hdeclared' hid hnames =>
    rw [hdeclared'.unique (declaresTabs_readTabs hdeclared)] at hid
    exact htakes.once id hid hnames

/-- Loading fails just if an id of a tab is repeated, and names such an id. Otherwise the document
has the declared tabs, each with an id of its own, and those that the tab bar names come first. -/
theorem loaded_tabs (hroot : (Json.object root).hasDistinctKeys = true) :
    ((∃ id, ofJson? (.object root) = .error (.duplicateTab id)) ↔ ∃ id, RepeatsTab root id)
      ∧ (∀ error, ofJson? (.object root) = .error error →
        ∃ id, error = .duplicateTab id ∧ RepeatsTab root id)
      ∧ ∀ document, ofJson? (.object root) = .ok document →
        (document.tabs.map Tab.id).Nodup ∧ ∃ declared, DeclaresTabs (root.get? "tabs") declared
          ∧ ArrangesTabs (tabBarNames root) declared document.tabs := by
  refine ⟨⟨?_, ?_⟩, fun error => exists_repeatsTab, fun document h => ?_⟩
  · rintro ⟨_, h⟩
    obtain ⟨id, -, hid⟩ := exists_repeatsTab h
    exact ⟨id, hid⟩
  · rintro ⟨id, hid⟩
    cases h : ofJson? (.object root) with
    | ok document => exact absurd hid (not_repeatsTab hroot h id)
    | error error =>
      obtain ⟨twice, rfl, -⟩ := exists_repeatsTab h
      exact ⟨twice, rfl⟩
  · obtain ⟨declared, hdeclared, htakes⟩ := exists_takesTabs hroot h
    obtain ⟨declared', hdeclared', hperm⟩ := exists_perm_of_ofJson? h
    cases hdeclared.symm.trans hdeclared'
    exact ⟨Loaded.nodup_tabIds ⟨_, hroot, h⟩, declared, declaresTabs_readTabs hdeclared,
      hperm, by simpa using htakes.arranged⟩

/-- The first entry is not called as the second one is, the third one is skipped but counted, and
the tab bar may name a tab that is not declared. -/
theorem loaded_tabs_albums :
    let root : Entries Json :=
      [("shell", .object [("tabBar", .string "Bar")]),
        ("tabs", .array [.object [("page", .string "Artists")], .object [("id", .string "tab-0")],
          .null, .object [("page", .string "Songs")], .object [("id", .string "Albums")]]),
        ("rootComponents", .object [("Bar", .object [("type", .string "TabBar"),
          ("tabs", .array [.string "Albums", .string "Genres", .string "tab-3"])])])]
    (Json.object root).hasDistinctKeys = true
      ∧ ∃ document, ofJson? (.object root) = .ok document
        ∧ document.tabs.map Tab.id = ["Albums", "tab-3", "tab-1", "tab-0"]
        ∧ (document.tabs.map Tab.id).Nodup ∧ ∃ declared, DeclaresTabs (root.get? "tabs") declared
          ∧ ArrangesTabs ["Albums", "Genres", "tab-3"] declared document.tabs := by
  intro root
  have hroot : (Json.object root).hasDistinctKeys = true := by decide +kernel
  exact ⟨hroot, _, rfl, rfl, (loaded_tabs hroot).2.2 _ rfl⟩

end Document

end Wireframe
