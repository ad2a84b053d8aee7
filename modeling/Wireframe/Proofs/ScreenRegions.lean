import Wireframe.Proofs.Addresses

/-!
# The regions of a screen

A screen is made up as its session says: of the page, the tab bar, the open popup and the snackbar. That
the session is about tabs and a snackbar that are declared is kept by each of its steps
(`Session.Log.consistent`). The bar has an entry for each tab, and activating it makes the tab active
(`Preview.regions_run`).
-/

namespace Wireframe

/-! ### Sessions -/

/-- Whether what a session shows is declared. -/
structure Session.Consistent (document : Document) (session : Session) : Prop where
  tab : document.tabs ≠ [] → ∃ tab ∈ document.tabs, session.activeTab = some tab.id
  snackbar : session.snackbarVisible = true → document.snackbar?.isSome

namespace Session

variable {document : Document} {first last : Session} {event : Event} {events : List Event}

lemma consistent_initial (document : Document) : (initial document).Consistent document where
  tab := fun htabs => by
    obtain ⟨tab, tabs, heq⟩ := List.exists_cons_of_ne_nil htabs
    refine ⟨tab, heq ▸ List.mem_cons_self, ?_⟩
    simp only [initial, heq]
    rfl
  snackbar := fun hvisible => by
    -- without a snackbar there is no flag that could say so
    cases hsnackbar : document.snackbar? with
    | some snackbar => rfl
    | none =>
      have hflag : document.snackbarFlag? = none := by
        simp only [Document.snackbarFlag?, hsnackbar]
        rfl
      simp [initial, hflag] at hvisible

lemma Step.consistent (h : Step document first event last) (hfirst : first.Consistent document) :
    last.Consistent document := by
  cases h with
  | @selectTab tab inactive declared =>
    obtain ⟨found, hfound⟩ := Option.isSome_iff_exists.mp declared
    have hid : found.id = tab := by simpa using List.find?_some hfound
    exact ⟨fun _ => ⟨found, List.mem_of_find?_eq_some hfound, congrArg some hid.symm⟩,
      hfirst.snackbar⟩
  | openPopup declared => exact ⟨hfirst.tab, hfirst.snackbar⟩
  | closePopup isOpen => exact ⟨hfirst.tab, hfirst.snackbar⟩
  | showSnackbar declared => exact ⟨hfirst.tab, fun _ => declared⟩
  | hideSnackbar visible => exact ⟨hfirst.tab, nofun⟩
  | command declared => exact hfirst
  | @write target value fresh =>
    cases target with
    | state path => exact ⟨hfirst.tab, hfirst.snackbar⟩
    | «local» id => exact ⟨hfirst.tab, hfirst.snackbar⟩
  | unknownAction undeclared notBuiltin => exact hfirst

theorem Log.consistent (h : Log document first events last) (hfirst : first.Consistent document) :
    last.Consistent document := by
  induction h with
  | nil => exact hfirst
  | cons step _ ih => exact ih (step.consistent hfirst)

end Session

/-! ### Regions -/

/-- What a child of the screen is for. -/
inductive Region where
  | page
  | tabs
  | popup (id : String)
  | snackbar

/-- The regions that a session calls for, in their order. -/
def Session.regions (document : Document) (session : Session) : List Region :=
  [.page]
    ++ (if document.tabs = [] then [] else [.tabs])
    ++ (session.openPopup.map Region.popup).toList
    ++ (if session.snackbarVisible then [.snackbar] else [])

/-- Whether a node fills a region. A mark takes the place of a popup that is not declared. -/
def Region.FilledBy : Region → Node → Prop
  | page, node => node.id = screenId ++ "/page" ∧ ∃ title, node.widget = .page title
  | tabs, node => node.id = screenId ++ "/tabs" ∧ node.widget = .tabBar
  | popup id, node =>
    node.id = screenId ++ "/popup"
      ∧ ((∃ title, node.widget = .popup id title) ∨ node.widget = .missing id .notFound)
  | snackbar, node =>
    node.id = screenId ++ "/snackbar"
      ∧ ∃ message actionLabel, node.widget = .snackbar message actionLabel

/-- Whether a node is the entry of a tab, beside the tab that is active. -/
structure Tab.ShownBy (active : Option String) (tab : Tab) (entry : Node) : Prop where
  id : entry.id = screenId ++ "/tabs" ++ "/" ++ tab.id
  widget : entry.widget
    = .tab tab.id tab.title (Icon.symbolOf (tab.icon.getD "home")) (active = some tab.id)

/-- Whether a node is the entry of the active tab. -/
def Node.isActiveTab (node : Node) : Bool :=
  match node.widget with
  | .tab _ _ _ active => active
  | _ => false

/-- Whether a screen is made up as a session says. -/
structure Node.Follows (document : Document) (session : Session) (screen : Node) : Prop where
  regions : List.Forall₂ Region.FilledBy (session.regions document) screen.children
  /-- If there are tabs, one of them is active: one entry of the bar says so, which is its own. -/
  tabs : document.tabs ≠ [] → ∃ tab ∈ document.tabs, session.activeTab = some tab.id
    ∧ ∃ bar ∈ screen.children, bar.widget = .tabBar
      ∧ List.Forall₂ (Tab.ShownBy session.activeTab) document.tabs bar.children
      ∧ ∃ entry, bar.children.filter Node.isActiveTab = [entry]
        ∧ tab.ShownBy session.activeTab entry

namespace Stage

variable {stage : Stage} {session : Session}

lemma filledBy_page : Region.page.FilledBy (stage.page session) := by
  simp only [page]
  split
  · exact ⟨rfl, _, rfl⟩
  · exact ⟨rfl, _, rfl⟩

lemma filledBy_popup (popupId : String) :
    (Region.popup popupId).FilledBy (stage.popup session popupId) := by
  simp only [popup]
  split
  · exact ⟨rfl, .inl ⟨_, rfl⟩⟩
  · exact ⟨rfl, .inr rfl⟩

lemma filledBy_snackbar {node : Node} (h : stage.snackbar? session = some node) :
    Region.snackbar.FilledBy node := by
  obtain ⟨⟨id, component⟩, -, rfl⟩ := Option.map_eq_some_iff.mp h
  exact ⟨rfl, _, _, rfl⟩

/-- The children of a screen are what its session calls for. -/
lemma regions_screen (h : session.Consistent stage.document) :
    List.Forall₂ Region.FilledBy (session.regions stage.document)
      (stage.screen session).children := by
  have htabs : List.Forall₂ Region.FilledBy
      (if stage.document.tabs = [] then [] else [.tabs])
      (if stage.document.tabs.isEmpty then [] else [stage.tabBar session]) := by
    by_cases hempty : stage.document.tabs = []
    · simp only [hempty, List.isEmpty_nil, if_true, List.forall₂_nil_left_iff]
    · rw [if_neg hempty, if_neg (by simpa using hempty)]
      exact .cons ⟨rfl, rfl⟩ .nil
  have hpopup : List.Forall₂ Region.FilledBy (session.openPopup.map Region.popup).toList
      (session.openPopup.map (stage.popup session)).toList := by
    cases session.openPopup with
    | none => exact .nil
    | some popupId => exact .cons (filledBy_popup popupId) .nil
  have hsnackbar : List.Forall₂ Region.FilledBy
      (if session.snackbarVisible then [.snackbar] else [])
      (if session.snackbarVisible then (stage.snackbar? session).toList else []) := by
    split
    · next hvisible =>
      obtain ⟨snackbar, hdeclared⟩ := Option.isSome_iff_exists.mp (h.snackbar hvisible)
      have hnode : ∃ node, stage.snackbar? session = some node := by
        rw [snackbar?, hdeclared]
        exact ⟨_, rfl⟩
      obtain ⟨node, hnode⟩ := hnode
      rw [hnode]
      exact .cons (filledBy_snackbar hnode) .nil
    · exact .nil
  have hpage : List.Forall₂ Region.FilledBy [.page] [stage.page session] :=
    .cons filledBy_page .nil
  exact List.rel_append (List.rel_append (List.rel_append hpage htabs) hpopup) hsnackbar

/-! ### Tabs -/

variable (stage session) in
/-- The entry of a tab in the bar. -/
def tabEntry (tab : Tab) : Node :=
  (Node.tab (screenId ++ "/tabs") tab.id tab.title tab.icon
    (session.activeTab = some tab.id)).withAttributes (stage.partAttributes .tab tab.style)

lemma children_tabBar :
    (stage.tabBar session).children = stage.document.tabs.map (stage.tabEntry session) := rfl

lemma shownBy_tabEntry (tab : Tab) :
    tab.ShownBy session.activeTab (stage.tabEntry session tab) := ⟨rfl, rfl⟩

lemma shownBy_entries :
    List.Forall₂ (Tab.ShownBy session.activeTab) stage.document.tabs
      (stage.tabBar session).children := by
  rw [children_tabBar, List.forall₂_map_right_iff, List.forall₂_same]
  exact fun tab _ => shownBy_tabEntry tab

/-- Of tabs with different ids, one has the id. -/
lemma filter_id_eq {tabs : List Tab} (h : (tabs.map Tab.id).Nodup) {tab : Tab} (htab : tab ∈ tabs) :
    (tabs.filter fun other => tab.id = other.id) = [tab] := by
  induction tabs with
  | nil => cases htab
  | cons first tabs ih =>
    obtain ⟨hnotin, hrest⟩ := List.nodup_cons.mp h
    rcases List.mem_cons.mp htab with rfl | htab
    · rw [List.filter_cons_of_pos (by simp), List.cons_inj_right, List.filter_eq_nil_iff]
      intro other hother hsame
      rw [of_decide_eq_true hsame] at hnotin
      exact hnotin (List.mem_map_of_mem hother)
    · have hne : tab.id ≠ first.id := fun hsame => hnotin (hsame ▸ List.mem_map_of_mem htab)
      rw [List.filter_cons_of_neg (by simpa using hne)]
      exact ih hrest htab

/-- Only the entry of the active tab says that it is active. -/
lemma filter_entries (hids : (stage.document.tabs.map Tab.id).Nodup) {tab : Tab}
    (htab : tab ∈ stage.document.tabs) (hactive : session.activeTab = some tab.id) :
    (stage.tabBar session).children.filter Node.isActiveTab = [stage.tabEntry session tab] := by
  have hsays : Node.isActiveTab ∘ stage.tabEntry session
      = fun other : Tab => decide (tab.id = other.id) := by
    funext other
    simp [tabEntry, hactive, Node.isActiveTab, Node.tab, Node.withAttributes]
  rw [children_tabBar, List.filter_map, hsays, filter_id_eq hids htab]
  rfl

/-- The screen of a session that is about what is declared is made up as the session says. -/
theorem follows_screen (hids : (stage.document.tabs.map Tab.id).Nodup)
    (h : session.Consistent stage.document) :
    (stage.screen session).Follows stage.document session where
  regions := regions_screen h
  tabs := fun htabs => by
    obtain ⟨tab, htab, hactive⟩ := h.tab htabs
    have hbar : stage.tabBar session ∈ (stage.screen session).children := by
      simp [screen, htabs]
    exact ⟨tab, htab, hactive, _, hbar, rfl, shownBy_entries, _, filter_entries hids htab hactive,
      shownBy_tabEntry tab⟩

end Stage

/-! ### Runs -/

namespace Preview

variable {preview : Preview}

lemma consistent_run {canvas : Canvas} {stage : Stage} {first : Preview}
    (h : mount (some canvas) stage = .ok first) (operations : List Operation) :
    (first.run operations).1.session.Consistent stage.document :=
  (log_run_of_mount h operations).consistent (Session.consistent_initial _)

/-- Choosing a declared tab makes it active, if it is not already. -/
lemma activeTab_selectTab (hlive : preview.tornDown = false) {tab : Tab}
    (htab : tab ∈ preview.stage.document.tabs) :
    (preview.selectTab tab.id).1.session.activeTab = some tab.id := by
  have hfound : preview.stage.document.tab? tab.id ≠ none :=
    fun hnone => List.find?_eq_none.mp hnone tab htab (by simp)
  rw [selectTab, session_performQuietly, hlive, if_neg Bool.false_ne_true]
  simp only [Stage.selectTab, Change.ofSession?, Session.selectTab?]
  by_cases hactive : preview.activity.session.activeTab = some tab.id
  · simp [hactive]
  · simp [hactive, hfound]

/-- The id of its entry leads to the tab, whatever the id of the tab is made of. -/
lemma activeTab_activate (hcurrent : preview.Current) (hloaded : preview.stage.document.Loaded)
    (hlive : preview.tornDown = false) {tab : Tab} (htab : tab ∈ preview.stage.document.tabs) :
    (preview.activate (screenId ++ "/tabs" ++ "/" ++ tab.id)).1.session.activeTab
      = some tab.id := by
  let entry := preview.stage.tabEntry preview.session tab
  have hentry : entry ∈ (preview.stage.tabBar preview.session).children :=
    List.mem_map_of_mem htab
  have hbar : preview.stage.tabBar preview.session ∈ preview.screen.children := by
    rw [hcurrent.screen]
    simp [Stage.screen, List.ne_nil_of_mem htab]
  have hmem : entry ∈ preview.screen.preorder :=
    Node.mem_preorder.mpr (.inr ⟨_, hbar, Node.mem_preorder.mpr
      (.inr ⟨entry, hentry, Node.mem_preorder_self _⟩)⟩)
  have hinteraction : preview.interaction? (screenId ++ "/tabs" ++ "/" ++ tab.id)
      = some (.selectTab tab.id) := (hcurrent.interaction?_eq hloaded hmem).2
  rw [activate, hinteraction]
  exact activeTab_selectTab hlive htab

/-- In a loaded document the screen is made up as the session says, after any run. Until the preview is
torn down, activating the entry of a tab makes the tab active. -/
theorem regions_run {stage : Stage} (hloaded : stage.document.Loaded) {canvas : Canvas}
    {first : Preview} (h : mount (some canvas) stage = .ok first) (operations : List Operation) :
    (first.run operations).1.screen.Follows stage.document (first.run operations).1.session
      ∧ (.teardown ∉ operations → ∀ tab ∈ stage.document.tabs,
        ((first.run operations).1.activate
          (screenId ++ "/tabs" ++ "/" ++ tab.id)).1.session.activeTab = some tab.id) := by
  refine ⟨?_, fun hnotin tab htab => ?_⟩
  · rw [screen_run_of_mount h]
    exact Stage.follows_screen hloaded.nodup_tabIds (consistent_run h operations)
  · have hcurrent := (current_of_mount h).run operations
    rw [← stage_run_of_mount h operations] at hloaded htab
    exact activeTab_activate hcurrent hloaded (live_run_of_mount h hnotin) htab

theorem regions_run_loans :
    ∃ document first operations,
      document.Loaded
        ∧ mount (some {}) { document, options := { now := 0 } } = .ok first
        ∧ operations = [.invoke "openEditor", .showSnackbar, .advance 0]
        ∧ (first.run operations).1.screen.Follows document (first.run operations).1.session
        ∧ (.teardown ∉ operations → ∀ tab ∈ document.tabs,
          ((first.run operations).1.activate
            (screenId ++ "/tabs" ++ "/" ++ tab.id)).1.session.activeTab = some tab.id) :=
  have hloaded := ⟨Json.loans, rfl, rfl⟩
  ⟨_, _, _, hloaded, rfl, rfl,
    @regions_run { document := _, options := { now := 0 } } hloaded _ _ rfl _⟩

/-- Once the preview is torn down, activating the entry of a tab does nothing. -/
theorem activate_tornDown_loans :
    ∃ document first tab,
      document.Loaded
        ∧ mount (some {}) { document, options := { now := 0 } } = .ok first
        ∧ tab ∈ document.tabs
        ∧ ((first.run [.teardown]).1.activate
          (screenId ++ "/tabs" ++ "/" ++ tab.id)).1.session.activeTab ≠ some tab.id := by
  obtain ⟨document, first, tab, hload, hmount, htab, hactive⟩ : ∃ document first tab,
      Document.ofJson? Json.loans = .ok document
        ∧ mount (some {}) { document, options := { now := 0 } } = .ok first
        ∧ document.tabs[1]? = some tab
        ∧ ((first.run [.teardown]).1.activate
          (screenId ++ "/tabs" ++ "/" ++ tab.id)).1.session.activeTab ≠ some tab.id :=
    ⟨_, _, _, rfl, rfl, rfl, by decide +kernel⟩
  exact ⟨document, first, tab, ⟨Json.loans, rfl, hload⟩, hmount, List.mem_of_getElem? htab, hactive⟩

end Preview

end Wireframe
