import Wireframe.Proofs.EntryLookups
import Wireframe.Proofs.ExtractedReadings

/-!
# Screens of documents in which a component is extracted

What is extracted from the pages and components of a document, and declared in another one under a name
that nothing else has, leaves the sessions as they are, and the screens but for the marks of too deep
nesting (`Document.Extracted.sameBut_screen`).
-/

namespace Wireframe

/-- Whether pages are the same, but for what is extracted from their layouts. -/
structure Page.Extracted (page : Page) (name : String) (declared : Component) (other : Page) :
    Prop where
  id : other.id = page.id
  title : other.title = page.title
  style : other.style = page.style
  layout : Option.Rel (Child.Extracted name declared) page.layout other.layout

/-- Whether entries have the same key and related values. -/
def EntryRel {α : Type} (r : α → α → Prop) (entry other : String × α) : Prop :=
  other.1 = entry.1 ∧ r entry.2 other.2

/-- Whether documents are the same, but for what is extracted from the pages and components of the one
and declared by the other under a name that the one does not use. -/
structure Document.Extracted (document : Document) (name : String) (declared : Component)
    (other : Document) : Prop where
  shell : other.shell = document.shell
  tabs : other.tabs = document.tabs
  sampleData : other.sampleData = document.sampleData
  state : other.state = document.state
  styles : other.styles = document.styles
  pages : List.Forall₂ (EntryRel fun page => page.Extracted name declared)
    document.pages other.pages
  components : ∃ components : Entries Component,
    List.Forall₂ (EntryRel fun component => component.Extracted name declared)
      document.components components
    ∧ other.components = components ++ [(name, declared)]
  rootComponents : List.Forall₂ (EntryRel fun component => component.Extracted name declared)
    document.rootComponents other.rootComponents
  itself : declared.Extracted name declared declared
  noSnackbar : declared.type ≠ .snackbar
  undeclared : document.component? name = none
  tabBar : document.shell.tabBar ≠ some name
  content : document.shell.content ≠ some name
  targets : ∀ tab ∈ document.tabs, tab.target ≠ .content name

lemma rel_find? {α β : Type} {r : α → β → Prop} {xs : List α} {ys : List β}
    (h : List.Forall₂ r xs ys) {p : α → Bool} {q : β → Bool} (hpq : ∀ x y, r x y → q y = p x) :
    Option.Rel r (xs.find? p) (ys.find? q) := by
  induction h with
  | nil => exact .none
  | @cons x y _ _ hr _ ih =>
    rw [List.find?_cons, List.find?_cons, hpq x y hr]
    split
    · exact .some hr
    · exact ih

namespace Entries

variable {α : Type} {r : α → α → Prop} {entries others : Entries α}

lemma rel_get? (h : List.Forall₂ (EntryRel r) entries others) (key : String) :
    Option.Rel r (entries.get? key) (others.get? key) := by
  induction h with
  | nil => exact .none
  | @cons entry other _ _ hentry _ ih =>
    obtain ⟨k, value⟩ := entry
    obtain ⟨k', value'⟩ := other
    obtain ⟨rfl, hr⟩ := hentry
    rw [get?_cons, get?_cons]
    split
    · exact .some hr
    · exact ih

lemma keys_eq (h : List.Forall₂ (EntryRel r) entries others) : others.keys = entries.keys := by
  induction h with
  | nil => rfl
  | cons hentry _ ih =>
    simp only [keys, List.map_cons] at ih ⊢
    rw [hentry.1, ih]

end Entries

namespace Document.Extracted

variable {document other : Document} {name : String} {declared : Component}
  (h : document.Extracted name declared other)
include h

/-! ### Lookups -/

lemma component?_name : other.component? name = some declared := by
  obtain ⟨components, hcomponents, heq⟩ := h.components
  have hnone : document.components.get? name = none := (Option.or_eq_none_iff.mp h.undeclared).1
  have hnone' : components.get? name = none := by
    rcases rel_cases (Entries.rel_get? hcomponents name) with ⟨-, hnone'⟩ | ⟨_, _, hsome, -, -⟩
    · exact hnone'
    · rw [hnone] at hsome
      cases hsome
  rw [component?, heq, Entries.get?_append, hnone']
  simp

lemma rel_component? {id : String} (hid : id ≠ name) :
    Option.Rel (fun component => component.Extracted name declared)
      (document.component? id) (other.component? id) := by
  obtain ⟨components, hcomponents, heq⟩ := h.components
  have hget : other.components.get? id = components.get? id := by
    rw [heq, Entries.get?_append]
    simp [hid.symm]
  rw [component?, component?, hget]
  exact rel_or (Entries.rel_get? hcomponents id) (Entries.rel_get? h.rootComponents id)

lemma rel_page? (id : String) :
    Option.Rel (fun page => page.Extracted name declared) (document.page? id) (other.page? id) :=
  Entries.rel_get? h.pages id

lemma contentPage?_eq {content : String} (hcontent : content ≠ name) :
    other.contentPage? content = document.contentPage? content := by
  have hpage : other.pages.contains content = document.pages.contains content := by
    simp only [Entries.contains]
    rcases rel_cases (h.rel_page? content) with ⟨hnone, hnone'⟩ | ⟨_, _, hsome, hsome', -⟩
    · simp only [page?] at hnone hnone'
      rw [hnone, hnone']
    · simp only [page?] at hsome hsome'
      rw [hsome, hsome']
      rfl
  simp only [contentPage?, hpage]
  rcases rel_cases (h.rel_component? hcontent) with
    ⟨hnone, hnone'⟩ | ⟨component, component', hsome, hsome', hcomponent⟩
  · rw [hnone, hnone']
  · have hliteral : component'.literal? "page" = component.literal? "page" :=
      (congrArg (Component.literal? · "page") hcomponent.bare :)
    simp only [hsome, hsome', hcomponent.type, hliteral]

lemma tabPage?_eq {tab : Tab} (htab : tab ∈ document.tabs) :
    other.tabPage? tab = document.tabPage? tab := by
  have htarget := h.targets tab htab
  simp only [tabPage?]
  split
  · rfl
  · next content hcontent =>
    exact h.contentPage?_eq fun heq => htarget (hcontent.trans (congrArg TabTarget.content heq))
  · rfl

lemma fallbackPage?_eq : other.fallbackPage? = document.fallbackPage? := by
  have hcontent : document.shell.content.bind other.contentPage?
      = document.shell.content.bind document.contentPage? := by
    cases hcontent : document.shell.content with
    | none => rfl
    | some content =>
      exact h.contentPage?_eq fun heq => h.content (hcontent.trans (congrArg some heq))
  simp only [fallbackPage?, h.shell, hcontent, Entries.keys_eq h.pages]

/-- The page that is shown is the same, but for what is extracted from it. -/
lemma rel_activePage? (options : Options) (session : Session) :
    Option.Rel (fun page => page.Extracted name declared)
      (Stage.activePage? { document, options } session)
      (Stage.activePage? { document := other, options } session) := by
  have htab : other.tab? = document.tab? := by
    funext id
    simp only [tab?, h.tabs]
  simp only [Stage.activePage?, htab]
  have hid : ∀ tab, session.activeTab.bind document.tab? = some tab → tab ∈ document.tabs := by
    intro tab hsome
    obtain ⟨id, -, hfind⟩ := Option.bind_eq_some_iff.mp hsome
    exact List.mem_of_find?_eq_some hfind
  have hbind : ∀ id : Option String, Option.Rel (fun page => page.Extracted name declared)
      (id.bind document.page?) (id.bind other.page?) := by
    intro id
    cases id with
    | none => exact .none
    | some id => exact h.rel_page? id
  split
  · next tab hsome =>
    rw [h.tabPage?_eq (hid tab hsome)]
    exact hbind _
  · rw [h.fallbackPage?_eq]
    exact hbind _

/-- The snackbar is the same, but for what is extracted from it. -/
lemma rel_snackbar? : Option.Rel (EntryRel fun component => component.Extracted name declared)
    document.snackbar? other.snackbar? := by
  obtain ⟨components, hcomponents, heq⟩ := h.components
  have hlast : components.find? (fun entry => entry.2.type = .snackbar)
      = other.snackbar? := by
    simp [snackbar?, heq, h.noSnackbar]
  rw [← hlast]
  exact rel_find? hcomponents fun entry entry' hentry => by simp only [hentry.2.type]

/-! ### Sessions -/

/-- The sessions begin alike. -/
theorem session_initial : Session.initial other = Session.initial document := by
  have hflag : other.snackbarFlag? = document.snackbarFlag? := by
    simp only [snackbarFlag?]
    rcases rel_cases h.rel_snackbar? with
      ⟨hnone, hnone'⟩ | ⟨⟨id, component⟩, ⟨id', component'⟩, hsome, hsome', -, hcomponent⟩
    · rw [hnone, hnone']
    · have hview : component'.view = component.view :=
        (congrArg Component.view hcomponent.bare :)
      rw [hsome, hsome']
      simp only [Option.bind_eq_bind, Option.bind_some, hview]
  simp only [Session.initial, h.state, h.tabs, hflag]

/-! ### Screens -/

variable (options : Options) (session : Session)

lemma stage_extracted : Stage.Extracted { document, options } name declared
    { document := other, options } where
  context := by
    funext session item
    simp only [Stage.context, h.sampleData]
  styles := by simp only [Stage.styles, h.styles]
  found := fun id hid => h.rel_component? hid
  named := h.component?_name
  itself := h.itself

lemma partAttributes_eq : Stage.partAttributes { document := other, options }
    = Stage.partAttributes { document, options } := by
  funext type style
  simp only [Stage.partAttributes, Stage.styles, h.styles]

lemma sameBut_page : (Stage.page { document, options } session).SameBut declared.type.name name
    (Stage.page { document := other, options } session) := by
  simp only [Stage.page]
  rcases rel_cases (h.rel_activePage? options session) with
    ⟨hnone, hnone'⟩ | ⟨page, page', hsome, hsome', hpage⟩
  · rw [hnone, hnone']
    exact .refl _
  · rw [hsome, hsome']
    simp only [hpage.title, hpage.style, h.partAttributes_eq]
    refine @Node.SameBut.node _ _
      { id := _, widget := _, attributes := _, children := _ } _ ?_
    exact forall₂_toList (rel_map hpage.layout fun _ _ hlayout =>
      Stage.sameBut_draw (h.stage_extracted options) hlayout)

lemma tabBar_eq : Stage.tabBar { document := other, options } session
    = Stage.tabBar { document, options } session := by
  have hstyle : (document.shell.tabBar.bind other.component?).bind Component.style
      = (document.shell.tabBar.bind document.component?).bind Component.style := by
    cases hbar : document.shell.tabBar with
    | none => rfl
    | some id =>
      have hid : id ≠ name := fun heq => h.tabBar (hbar.trans (congrArg some heq))
      rcases rel_cases (h.rel_component? hid) with
        ⟨hnone, hnone'⟩ | ⟨component, component', hsome, hsome', hcomponent⟩
      · rw [Option.bind_some, Option.bind_some, hnone, hnone']
      · rw [Option.bind_some, Option.bind_some, hsome, hsome']
        exact hcomponent.style
  simp only [Stage.tabBar, h.shell, h.tabs, h.partAttributes_eq, hstyle]

lemma sameBut_popup {popupId : String} (hpopup : popupId ≠ name) :
    (Stage.popup { document, options } session popupId).SameBut declared.type.name name
      (Stage.popup { document := other, options } session popupId) := by
  have hstage := h.stage_extracted options
  simp only [Stage.popup]
  rcases rel_cases (h.rel_component? hpopup) with
    ⟨hnone, hnone'⟩ | ⟨component, component', hsome, hsome', hcomponent⟩
  · rw [hnone, hnone']
    exact .refl _
  · rw [hsome, hsome']
    have hdraw : ∀ scope content content' id, Child.Extracted name declared content content' →
        (Stage.draw { document, options } session (maxDepth - 1) scope content id).SameBut
          declared.type.name name
          (Stage.draw { document := other, options } session (maxDepth - 1) scope content' id) :=
      fun _ _ _ _ => Stage.sameBut_draw hstage
    dsimp only
    rw [Stage.site_extracted hstage {} component component' (screenId ++ "/popup"),
      hcomponent.type, Site.text?_extracted hcomponent, hcomponent.style, h.partAttributes_eq]
    refine @Node.SameBut.node _ _
      { id := _, widget := _, attributes := _, children := _, interaction := _ } _ ?_
    refine .cons (.refl _) (List.rel_append (List.rel_append ?_ ?_) ?_)
    · exact forall₂_toList (Site.rel_slot? hcomponent hdraw .content)
    · exact Site.forall₂_children hcomponent hdraw {}
    · exact forall₂_toList (Site.rel_slot? hcomponent hdraw .footer)

lemma snackbar?_eq : Stage.snackbar? { document := other, options } session
    = Stage.snackbar? { document, options } session := by
  simp only [Stage.snackbar?]
  rcases rel_cases h.rel_snackbar? with
    ⟨hnone, hnone'⟩ | ⟨⟨id, component⟩, ⟨id', component'⟩, hsome, hsome', -, hcomponent⟩
  · rw [hnone, hnone']
    rfl
  · have hstage := h.stage_extracted options
    have hcomponent : component.Extracted name declared component' := hcomponent
    have htext : ∀ field, ((Stage.site { document, options } session {} component
          (screenId ++ "/snackbar")).withComponent component').text? field
        = (Stage.site { document, options } session {} component
          (screenId ++ "/snackbar")).text? field := Site.text?_extracted hcomponent
    have hinteraction : component'.interaction? Stage.snackbarEvents
        = component.interaction? Stage.snackbarEvents :=
      (congrArg (Component.interaction? · Stage.snackbarEvents) hcomponent.bare :)
    rw [hsome, hsome']
    simp only [Option.map_some, Site.text,
      Stage.site_extracted hstage {} component component' (screenId ++ "/snackbar"),
      htext, hinteraction, hcomponent.style, h.partAttributes_eq]

/-- The screens of a session are the same, but for the marks of too deep nesting. -/
theorem sameBut_screen (hpopup : session.openPopup ≠ some name) :
    (Stage.screen { document, options } session).SameBut declared.type.name name
      (Stage.screen { document := other, options } session) := by
  have hpopups : List.Forall₂ (Node.SameBut declared.type.name name)
      (session.openPopup.map (Stage.popup { document, options } session)).toList
      (session.openPopup.map (Stage.popup { document := other, options } session)).toList := by
    cases hopen : session.openPopup with
    | none => exact .nil
    | some popupId =>
      have hne : popupId ≠ name := fun heq => hpopup (hopen.trans (congrArg some heq))
      exact .cons (h.sameBut_popup options session hne) .nil
  have hrefl : ∀ nodes : List Node,
      List.Forall₂ (Node.SameBut declared.type.name name) nodes nodes :=
    fun nodes => List.forall₂_same.mpr fun node _ => .refl node
  simp only [Stage.screen, h.shell, h.tabs, h.partAttributes_eq, h.tabBar_eq, h.snackbar?_eq]
  refine @Node.SameBut.node _ _ { id := _, widget := _, attributes := _, children := _ } _ ?_
  exact List.rel_append (List.rel_append (List.rel_append
    (.cons (h.sameBut_page options session) .nil) (hrefl _)) hpopups) (hrefl _)

end Document.Extracted

end Wireframe
