import Wireframe.Proofs.Parts
import Mathlib.Tactic.Common

/-!
# What can be on a screen

A drawing goes from what it starts with to what components contain, and follows references. Each of
its nodes is that of a component reached in this way, a mark, or a frame or a label of a list
(`Stage.drawn_of_mem`). On a screen there are besides the page, the tab bar, the popup and the snackbar
with their own buttons (`Stage.onScreen_of_mem`).
-/

namespace Wireframe

/-- Whether an interaction is one of the screen itself: to choose a tab, to close the popup, or what the
buttons of the snackbar do. -/
def Interaction.isOfScreen : Interaction → Bool
  | selectTab _ | closePopup | dismissSnackbar | snackbarAction _ => true
  | _ => false

namespace Stage

variable (stage : Stage)

/-! ### Drawings -/

/-- What a drawing reaches from what it starts with. -/
inductive Reached (start : Child → Prop) : Child → Prop where
  | start {child : Child} (h : start child) : Reached start child
  | inner {component : Component} {child : Child} (h : Reached start (.inline component))
      (hchild : component.Contains child) : Reached start child
  | followed {reference : Reference} {component : Component}
      (h : Reached start (.reference reference))
      (hfound : stage.document.component? reference.id = some component) :
      Reached start (.inline (component.overridden reference))

/-- The nodes of drawings. -/
inductive Drawn (start : Child → Prop) : Node → Prop where
  | component {site : Site} (draw : Draw) (h : stage.Reached start (.inline site.component)) :
      Drawn start (site.node draw)
  | notFound {reference : Reference} (id : String) (h : stage.Reached start (.reference reference))
      (hmissing : stage.document.component? reference.id = none) :
      Drawn start (Node.missing id reference.id .notFound)
  | tooDeep (id name : String) : Drawn start (Node.missing id name .tooDeep)
  | frame {node : Node} (h : node.IsFrame) : Drawn start node
  | label (id text : String) : Drawn start (Node.label id text none)

variable {stage} {session : Session} {start : Child → Prop} {n : Node}

lemma drawn_of_mem_node {depth : Nat} {site : Site}
    (ih : ∀ {scope content id}, stage.Reached start content →
      n ∈ (stage.draw session depth scope content id).preorder → stage.Drawn start n)
    (h : stage.Reached start (.inline site.component))
    (hn : n ∈ (site.node (stage.draw session depth)).preorder) : stage.Drawn start n := by
  rcases site.mem_preorder_cases _ hn with rfl | hframe | ⟨id, text, rfl⟩ | hdrawn
  · exact .component _ h
  · exact .frame hframe
  · exact .label id text
  · obtain ⟨item, content, id, hcontent, -, hn⟩ := hdrawn
    exact ih (.inner h hcontent) hn

/-- What is drawn for something that is reached, however deep, is reached too. -/
theorem drawn_of_mem {depth : Nat} {scope : Scope} {content : Child} {id : String}
    (h : stage.Reached start content)
    (hn : n ∈ (stage.draw session depth scope content id).preorder) : stage.Drawn start n := by
  -- references may go round in circles, so that only the depth decreases
  induction depth generalizing scope content id with
  | zero =>
    rw [Node.eq_of_mem_leaf rfl hn]
    exact .tooDeep id content.name
  | succ depth ih =>
    cases content with
    | «inline» component => exact drawn_of_mem_node ih h hn
    | reference reference =>
      simp only [draw] at hn
      split at hn
      · next component hfound => exact drawn_of_mem_node ih (.followed h hfound) hn
      · next hmissing =>
        rw [Node.eq_of_mem_leaf rfl hn]
        exact .notFound id h hmissing

/-! ### Screens -/

variable (stage session)

/-- What the drawings of a screen start with. -/
inductive Shown : Child → Prop where
  | layout {page : Page} {content : Child} (hpage : stage.activePage? session = some page)
      (h : page.layout = some content) : Shown content
  | popup {popupId : String} {component : Component} {content : Child}
      (hopen : session.openPopup = some popupId)
      (hfound : stage.document.component? popupId = some component)
      (h : component.Contains content) : Shown content

/-- The button that every popup has. -/
def closeButton : Node :=
  Node.button (screenId ++ "/popup" ++ "/close") "" (some "close") (some .closePopup)

/-- The nodes of a screen. -/
inductive OnScreen : Node → Prop where
  | screen : OnScreen (stage.screen session)
  | page : OnScreen (stage.page session)
  | tabBar : OnScreen (stage.tabBar session)
  | tab {node : Node} (h : node ∈ (stage.tabBar session).children) : OnScreen node
  | popup {popupId : String} (h : session.openPopup = some popupId) :
      OnScreen (stage.popup session popupId)
  | closeButton : OnScreen closeButton
  | snackbar {node : Node} (h : stage.snackbar? session = some node) : OnScreen node
  | snackbarButton {bar node : Node} (h : stage.snackbar? session = some bar)
      (hnode : node ∈ bar.children) : OnScreen node
  | drawn {node : Node} (h : stage.Drawn (stage.Shown session) node) : OnScreen node

variable {stage session}

lemma onScreen_of_mem_page (hn : n ∈ (stage.page session).preorder) :
    stage.OnScreen session n := by
  rcases Node.mem_preorder.mp hn with rfl | ⟨child, hchild, hn⟩
  · exact .page
  · simp only [page] at hchild
    split at hchild
    · next page hpage =>
      obtain ⟨layout, hlayout, rfl⟩ := Option.map_eq_some_iff.mp (Option.mem_toList.mp hchild)
      exact .drawn (drawn_of_mem (.start (.layout hpage hlayout)) hn)
    · cases hchild

/-- Everything else in a popup is drawn for what its component contains. -/
lemma children_popup {popupId : String} {component : Component}
    (hopen : session.openPopup = some popupId)
    (hfound : stage.document.component? popupId = some component) :
    ∃ drawn, (stage.popup session popupId).children = closeButton :: drawn
      ∧ ∀ child ∈ drawn, ∀ n ∈ child.preorder, stage.Drawn (stage.Shown session) n := by
  have hdrawn : ∀ {content}, component.Contains content → ∀ {depth scope id n},
      n ∈ (stage.draw session depth scope content id).preorder →
        stage.Drawn (stage.Shown session) n :=
    fun hcontent => drawn_of_mem (.start (.popup hopen hfound hcontent))
  simp only [popup, hfound]
  refine ⟨_, rfl, fun child hchild n hn => ?_⟩
  simp only [List.mem_append, Option.mem_toList, or_assoc] at hchild
  rcases hchild with hcontent | hchild | hfooter
  · obtain ⟨content, hslot, rfl⟩ := Option.map_eq_some_iff.mp hcontent
    exact hdrawn (.inr ⟨.content, hslot⟩) hn
  · obtain ⟨i, hi, rfl⟩ := List.mem_mapIdx.mp hchild
    exact hdrawn (.inl (List.getElem_mem hi)) hn
  · obtain ⟨content, hslot, rfl⟩ := Option.map_eq_some_iff.mp hfooter
    exact hdrawn (.inr ⟨.footer, hslot⟩) hn

lemma onScreen_of_mem_popup {popupId : String} (hopen : session.openPopup = some popupId)
    (hn : n ∈ (stage.popup session popupId).preorder) : stage.OnScreen session n := by
  rcases Node.mem_preorder.mp hn with rfl | ⟨child, hchild, hn⟩
  · exact .popup hopen
  · cases hfound : stage.document.component? popupId with
    | none =>
      simp only [popup, hfound] at hchild
      cases hchild
    | some component =>
      obtain ⟨drawn, hchildren, hdrawn⟩ := children_popup hopen hfound
      rw [hchildren] at hchild
      rcases List.mem_cons.mp hchild with rfl | hchild
      · rw [Node.eq_of_mem_leaf rfl hn]
        exact .closeButton
      · exact .drawn (hdrawn child hchild n hn)

/-- The entries of the tab bar have nothing below them. -/
lemma tab_of_mem_tabBar {node : Node} (h : node ∈ (stage.tabBar session).children) :
    node.children = [] ∧ ∃ id title glyph active, node.widget = .tab id title glyph active := by
  obtain ⟨tab, -, rfl⟩ := List.mem_map.mp h
  exact ⟨rfl, _, _, _, _, rfl⟩

lemma onScreen_of_mem_tabBar (hn : n ∈ (stage.tabBar session).preorder) :
    stage.OnScreen session n := by
  rcases Node.mem_preorder.mp hn with rfl | ⟨child, hchild, hn⟩
  · exact .tabBar
  · rw [Node.eq_of_mem_leaf (tab_of_mem_tabBar hchild).1 hn]
    exact .tab hchild

lemma button_of_mem_snackbar {bar node : Node} (h : stage.snackbar? session = some bar)
    (hnode : node ∈ bar.children) : ∃ id caption glyph interaction,
      node = Node.button id caption glyph (some interaction) ∧ interaction.isOfScreen := by
  obtain ⟨⟨id, component⟩, -, rfl⟩ := Option.map_eq_some_iff.mp h
  rcases List.mem_append.mp hnode with haction | hdismiss
  · obtain ⟨caption, -, rfl⟩ := List.mem_map.mp haction
    exact ⟨_, _, _, _, rfl, rfl⟩
  · rw [List.mem_singleton.mp hdismiss]
    exact ⟨_, _, _, _, rfl, rfl⟩

lemma onScreen_of_mem_snackbar {bar : Node} (h : stage.snackbar? session = some bar)
    (hn : n ∈ bar.preorder) : stage.OnScreen session n := by
  rcases Node.mem_preorder.mp hn with rfl | ⟨child, hchild, hn⟩
  · exact .snackbar h
  · obtain ⟨id, caption, glyph, interaction, hbutton, -⟩ := button_of_mem_snackbar h hchild
    rw [Node.eq_of_mem_leaf (hbutton ▸ rfl) hn]
    exact .snackbarButton h hchild

/-- The children of a screen are the page, the tab bar, the open popup and the snackbar. -/
lemma mem_children_screen {child : Node} (h : child ∈ (stage.screen session).children) :
    child = stage.page session ∨ child = stage.tabBar session
      ∨ (∃ popupId, session.openPopup = some popupId ∧ child = stage.popup session popupId)
      ∨ stage.snackbar? session = some child := by
  simp only [screen, List.mem_append, List.mem_singleton, or_assoc] at h
  rcases h with rfl | htabs | hpopup | hsnackbar
  · exact .inl rfl
  · split at htabs
    · cases htabs
    · exact .inr (.inl (List.mem_singleton.mp htabs))
  · obtain ⟨popupId, hopen, rfl⟩ := Option.map_eq_some_iff.mp (Option.mem_toList.mp hpopup)
    exact .inr (.inr (.inl ⟨popupId, hopen, rfl⟩))
  · split at hsnackbar
    · exact .inr (.inr (.inr (Option.mem_toList.mp hsnackbar)))
    · cases hsnackbar

/-- Every node of a screen is one of these. -/
theorem onScreen_of_mem (hn : n ∈ (stage.screen session).preorder) : stage.OnScreen session n := by
  rcases Node.mem_preorder.mp hn with rfl | ⟨child, hchild, hn⟩
  · exact .screen
  · rcases mem_children_screen hchild with rfl | rfl | ⟨popupId, hopen, rfl⟩ | hsnackbar
    · exact onScreen_of_mem_page hn
    · exact onScreen_of_mem_tabBar hn
    · exact onScreen_of_mem_popup hopen hn
    · exact onScreen_of_mem_snackbar hsnackbar hn

end Stage

end Wireframe
