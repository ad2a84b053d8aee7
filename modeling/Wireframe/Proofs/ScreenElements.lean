import Wireframe.Proofs.Addresses
import Wireframe.Proofs.DrawnNodes
import Wireframe.Proofs.NodeElements

/-!
# Elements of screens

No node that can be on a screen has children that it does not draw. So the elements of a screen are its
nodes, each once, and the card of the popup (`Preview.marks_run`).
-/

namespace Wireframe

/-- Whether a node draws all of its children, and draws them as they are. -/
structure Node.Plain (node : Node) : Prop where
  buttons : drawsButtons node.widget = false
  leaf : isLeaf node.widget = true → node.children = []

namespace Node.Plain

variable {node : Node}

lemma of_inner (hbuttons : drawsButtons node.widget = false) (hleaf : isLeaf node.widget = false) :
    node.Plain where
  buttons := hbuttons
  leaf := fun htrue => absurd (hleaf.symm.trans htrue) Bool.false_ne_true

lemma faithful (h : node.Plain) : node.Faithful where
  leaf := h.leaf
  snackbar := fun message actionLabel hwidget => by
    have hbuttons := h.buttons
    rw [hwidget] at hbuttons
    cases hbuttons
  popup := fun popupId title hwidget => by
    have hbuttons := h.buttons
    rw [hwidget] at hbuttons
    cases hbuttons

lemma isPopup (h : node.Plain) : node.isPopup = false := by
  have hbuttons := h.buttons
  unfold Node.isPopup
  split
  · next hwidget =>
    rw [hwidget] at hbuttons
    cases hbuttons
  · rfl

end Node.Plain

lemma Node.IsFrame.plain {node : Node} (h : node.IsFrame) : node.Plain := by
  rcases h.2 with hwidget | ⟨index, hwidget⟩ <;>
    exact .of_inner (by rw [hwidget]; rfl) (by rw [hwidget]; rfl)

namespace Site

variable (site : Site) (draw : Draw)

lemma plain_node : (site.node draw).Plain := by
  simp only [node, body]
  cases site.component.type.form with
  | border => exact .of_inner rfl rfl
  | stack =>
    simp only [stack]
    split <;> exact .of_inner rfl rfl
  | grid => exact .of_inner rfl rfl
  | flex => exact .of_inner rfl rfl
  | collection => exact .of_inner rfl rfl
  | swipe => exact .of_inner rfl rfl
  | radioGroup => exact .of_inner rfl rfl
  | popup => exact .of_inner rfl rfl
  | snackbar => exact .of_inner rfl rfl
  | generic =>
    simp only [other]
    split
    · exact .of_inner rfl rfl
    · exact ⟨rfl, fun _ => rfl⟩
  | _ => exact ⟨rfl, fun _ => rfl⟩

/-- A click on a component runs an action, but it does not close the popup by itself. -/
lemma closesPopup_node : (site.node draw).closesPopup = false := by
  have hclick : ∀ node : Node, node.interaction = site.click? → node.closesPopup = false := by
    intro node h
    unfold Node.closesPopup
    rw [h, click?]
    cases (site.component.interaction? clickEvents).or _ <;> rfl
  simp only [node, body]
  cases site.component.type.form with
  | button => exact hclick _ rfl
  | fab => exact hclick _ rfl
  | picker =>
    simp only [picker, Node.picker, Node.withAttributes, Node.closesPopup]
    cases (Choice.list _ _ _).isEmpty <;> rfl
  | radio =>
    simp only [radio]
    cases site.scope.radioGroup <;> rfl
  | generic =>
    simp only [other]
    split <;> rfl
  | _ => rfl

end Site

namespace Stage

variable {stage : Stage} {session : Session} {n : Node}

lemma plain_page : (stage.page session).Plain := by
  simp only [page]
  split <;> exact .of_inner rfl rfl

lemma Drawn.plain {start : Child → Prop} (h : stage.Drawn start n) : n.Plain := by
  cases h with
  | component draw h => exact Site.plain_node _ draw
  | notFound id h hmissing => exact ⟨rfl, fun _ => rfl⟩
  | tooDeep id name => exact ⟨rfl, fun _ => rfl⟩
  | frame h => exact h.plain
  | label id text => exact ⟨rfl, fun _ => rfl⟩

lemma Drawn.closesPopup {start : Child → Prop} (h : stage.Drawn start n) :
    n.closesPopup = false := by
  cases h with
  | component draw h => exact Site.closesPopup_node _ draw
  | notFound id h hmissing => rfl
  | tooDeep id name => rfl
  | frame h =>
    unfold Node.closesPopup
    rw [h.1]
  | label id text => rfl

/-- Only the popup and the snackbar draw buttons of their own. -/
lemma OnScreen.plain_or (h : stage.OnScreen session n) :
    n.Plain
      ∨ (∃ popupId component, session.openPopup = some popupId
        ∧ stage.document.component? popupId = some component ∧ n = stage.popup session popupId)
      ∨ stage.snackbar? session = some n := by
  cases h with
  | screen => exact .inl (.of_inner rfl rfl)
  | page => exact .inl plain_page
  | tabBar => exact .inl (.of_inner rfl rfl)
  | tab h =>
    obtain ⟨hchildren, id, title, glyph, active, hwidget⟩ := tab_of_mem_tabBar h
    exact .inl ⟨by rw [hwidget]; rfl, fun _ => hchildren⟩
  | @popup popupId hopen =>
    cases hfound : stage.document.component? popupId with
    | none =>
      refine .inl ?_
      simp only [Stage.popup, hfound]
      exact ⟨rfl, fun _ => rfl⟩
    | some component => exact .inr (.inl ⟨popupId, component, hopen, hfound, rfl⟩)
  | closeButton => exact .inl ⟨rfl, fun _ => rfl⟩
  | snackbar h => exact .inr (.inr h)
  | snackbarButton h hnode =>
    obtain ⟨id, caption, glyph, interaction, rfl, -⟩ := button_of_mem_snackbar h hnode
    exact .inl ⟨rfl, fun _ => rfl⟩
  | drawn h => exact .inl h.plain

lemma widget_popup {popupId : String} {component : Component}
    (hfound : stage.document.component? popupId = some component) :
    ∃ title, (stage.popup session popupId).widget = .popup popupId title
      ∧ (stage.popup session popupId).interaction = some .closePopup := by
  simp only [popup, hfound]
  exact ⟨_, rfl, rfl⟩

lemma widget_snackbar (h : stage.snackbar? session = some n) :
    ∃ message actionLabel, n.widget = .snackbar message actionLabel := by
  obtain ⟨⟨id, component⟩, -, rfl⟩ := Option.map_eq_some_iff.mp h
  exact ⟨_, _, rfl⟩

/-- What closes a popup is its own button, as nothing that is drawn in it closes it. -/
lemma faithful_popup {popupId : String} {component : Component}
    (hopen : session.openPopup = some popupId)
    (hfound : stage.document.component? popupId = some component) :
    (stage.popup session popupId).Faithful := by
  obtain ⟨title, hwidget, hinteraction⟩ := @widget_popup stage session _ _ hfound
  obtain ⟨drawn, hchildren, hdrawn⟩ := children_popup hopen hfound
  refine ⟨fun hleaf => ?_, fun _ _ h => ?_, fun _ _ _ => ⟨?_, fun child hchild hcloses => ?_⟩⟩
  · rw [hwidget] at hleaf
    cases hleaf
  · rw [hwidget] at h
    cases h
  · rw [hinteraction]
    rfl
  · rw [hchildren] at hchild
    rcases List.mem_cons.mp hchild with rfl | hchild
    · exact ⟨rfl, _, _, rfl⟩
    · rw [(hdrawn child hchild child (Node.mem_preorder_self child)).closesPopup] at hcloses
      cases hcloses

lemma faithful_snackbar (h : stage.snackbar? session = some n) : n.Faithful := by
  obtain ⟨message, actionLabel, hwidget⟩ := widget_snackbar h
  refine ⟨fun hleaf => ?_, fun _ _ _ child hchild => ?_, fun _ _ hpopup => ?_⟩
  · rw [hwidget] at hleaf
    cases hleaf
  · obtain ⟨id, caption, glyph, interaction, rfl, -⟩ := button_of_mem_snackbar h hchild
    exact ⟨rfl, _, _, rfl⟩
  · rw [hwidget] at hpopup
    cases hpopup

/-- Every node of a screen has its children drawn. -/
theorem OnScreen.faithful (h : stage.OnScreen session n) : n.Faithful := by
  rcases h.plain_or with hplain | ⟨popupId, component, hopen, hfound, rfl⟩ | hsnackbar
  · exact hplain.faithful
  · exact faithful_popup hopen hfound
  · exact faithful_snackbar hsnackbar

/-! ### Cards -/

/-- The only popup is the open one. -/
lemma OnScreen.id_of_isPopup (h : stage.OnScreen session n) (hpopup : n.isPopup = true) :
    n.id = screenId ++ "/" ++ "popup" := by
  rcases h.plain_or with hplain | ⟨popupId, component, hopen, hfound, rfl⟩ | hsnackbar
  · rw [hplain.isPopup] at hpopup
    cases hpopup
  · exact (stage.named_popup session popupId).root
  · obtain ⟨message, actionLabel, hwidget⟩ := widget_snackbar hsnackbar
    rw [Node.isPopup, hwidget] at hpopup
    cases hpopup

lemma ne_card_popup {popupId : String} (hn : n ∈ (stage.popup session popupId).preorder) :
    n.id ≠ screenId ++ "/popup" ++ "/" ++ "card" := by
  intro hid
  rcases Node.mem_preorder.mp hn with rfl | hbelow
  · rw [(stage.named_popup session popupId).root] at hid
    exact absurd hid (by decide)
  · cases hfound : stage.document.component? popupId with
    | none =>
      obtain ⟨child, hchild, -⟩ := hbelow
      simp only [popup, hfound] at hchild
      cases hchild
    | some component =>
      obtain ⟨part, hpart, hextends⟩ := (stage.namedIn_popup session hfound).within n
        (Node.mem_preorderAll.mpr hbelow)
      have hslash := (segments_popup component.allChildren.length).slashFree part hpart
      have hcard : part = "card" :=
        eq_of_extends hslash (by decide) hextends (hid ▸ Extends.refl _)
      have hindex : "card" ∉ indices component.allChildren.length :=
        not_mem_indices (by decide) _
      rw [hcard] at hpart
      simp [hindex] at hpart

/-- No node has the id of the card. -/
lemma ne_card (hloaded : stage.document.Loaded) (hn : n ∈ (stage.screen session).preorder) :
    n.id ≠ screenId ++ "/popup" ++ "/" ++ "card" := by
  intro hid
  have hpopup : Extends (screenId ++ "/" ++ "popup") n.id := by
    rw [hid]
    exact extends_join _ "card"
  have hother : ∀ part ∈ ["page", "tabs", "snackbar"],
      ¬ Extends (screenId ++ "/" ++ part) n.id := by
    intro part hpart hextends
    have hslash : ∀ part ∈ ["page", "tabs", "snackbar"], '/' ∉ part.toList := by decide
    have hsame := eq_of_extends (hslash part hpart) (by decide) hextends hpopup
    rw [hsame] at hpart
    exact absurd hpart (by decide)
  rcases Node.mem_preorder.mp hn with rfl | ⟨child, hchild, hn⟩
  · have hroot : (stage.screen session).id = screenId := rfl
    rw [hroot] at hid
    exact absurd hid (by decide)
  · simp only [screen, List.mem_append, List.mem_singleton, or_assoc] at hchild
    rcases hchild with rfl | htabs | hopen | hsnackbar
    · exact hother "page" (by decide) ((stage.named_page session).within n hn)
    · split at htabs
      · cases htabs
      · rw [List.mem_singleton.mp htabs] at hn
        exact hother "tabs" (by decide)
          ((stage.named_tabBar session hloaded.nodup_tabIds).within n hn)
    · obtain ⟨popupId, -, rfl⟩ := Option.map_eq_some_iff.mp (Option.mem_toList.mp hopen)
      exact ne_card_popup hn hid
    · split at hsnackbar
      · exact hother "snackbar" (by decide)
          ((stage.named_snackbar session (Option.mem_toList.mp hsnackbar)).within n hn)
      · cases hsnackbar

/-- The ids of the nodes and of the card are all different. -/
lemma nodup_ids_cards (hloaded : stage.document.Loaded) (session : Session) :
    ((stage.screen session).preorder.map Node.id
      ++ ((stage.screen session).preorder.filter Node.isPopup).map Node.cardId).Nodup := by
  have hids := (Stage.nodup_ids hloaded session).1
  have hcards : (((stage.screen session).preorder.filter Node.isPopup).map Node.cardId).Nodup := by
    have hpopups : (((stage.screen session).preorder.filter Node.isPopup).map Node.id).Nodup :=
      hids.sublist (List.filter_sublist.map Node.id)
    have hcard : Node.cardId = (· ++ "/card") ∘ Node.id := rfl
    rw [hcard, ← List.map_map]
    refine hpopups.map fun id other heq => ?_
    simpa [← String.toList_inj] using heq
  refine List.nodup_append.mpr ⟨hids, hcards, ?_⟩
  rintro other hother card hcard rfl
  obtain ⟨n, hn, rfl⟩ := List.mem_map.mp hother
  obtain ⟨popup, hpopup, hid⟩ := List.mem_map.mp hcard
  obtain ⟨hmem, hispopup⟩ := List.mem_filter.mp hpopup
  refine ne_card hloaded hn ?_
  rw [← hid, Node.cardId, (onScreen_of_mem hmem).id_of_isPopup hispopup]
  rfl

end Stage

namespace Preview

/-- The written screen can be read, and after any run its elements are those of its nodes in their
order, with the card of each popup behind the popup; an element is marked as interactive if and only if
its node has an interaction. No node is drawn twice or lost, and in a loaded document the ids of all
elements are different. -/
theorem marks_run {stage : Stage} {canvas : Canvas} {first : Preview}
    (h : mount (some canvas) stage = .ok first) (operations : List Operation) :
    ∃ tokens, Token.scan? (first.run operations).1.screen.html = some tokens
      ∧ tokens.filterMap Token.mark?
        = (first.run operations).1.screen.arranged.preorder.flatMap Node.marks
      ∧ ((tokens.filterMap Token.mark?).map Prod.fst).Perm
        ((first.run operations).1.screen.preorder.map Node.id
          ++ ((first.run operations).1.screen.preorder.filter Node.isPopup).map Node.cardId)
      ∧ (stage.document.Loaded → ((tokens.filterMap Token.mark?).map Prod.fst).Nodup) := by
  rw [screen_run_of_mount h]
  generalize (first.run operations).1.session = session
  -- nothing of a screen is lost or drawn twice, as each of its nodes draws its children
  have hmarks := Node.marks_markup (stage.screen session)
    fun n hn => (Stage.onScreen_of_mem hn).faithful
  have hperm := (stage.screen session).perm_marks
  refine ⟨_, Node.scan?_html _, hmarks, ?_, fun hloaded => ?_⟩
  · rw [← hmarks] at hperm
    exact hperm
  · rw [← hmarks] at hperm
    exact hperm.nodup_iff.mpr (Stage.nodup_ids_cards hloaded session)

theorem marks_run_loans :
    ∃ document first tokens,
      document.Loaded
        ∧ mount (some {}) { document, options := { now := 0 } } = .ok first
        ∧ (first.run [.invoke "openEditor"]).1.session.openPopup = some "Editor"
        ∧ Token.scan? (first.run [.invoke "openEditor"]).1.screen.html = some tokens
        ∧ tokens.filterMap Token.mark?
          = (first.run [.invoke "openEditor"]).1.screen.arranged.preorder.flatMap Node.marks
        ∧ ((tokens.filterMap Token.mark?).map Prod.fst).Perm
          ((first.run [.invoke "openEditor"]).1.screen.preorder.map Node.id
            ++ ((first.run [.invoke "openEditor"]).1.screen.preorder.filter Node.isPopup).map
              Node.cardId)
        ∧ ((tokens.filterMap Token.mark?).map Prod.fst).Nodup := by
  obtain ⟨document, first, hload, hmount, hopen⟩ : ∃ document first,
      Document.ofJson? Json.loans = .ok document
        ∧ mount (some {}) { document, options := { now := 0 } } = .ok first
        ∧ (first.run [.invoke "openEditor"]).1.session.openPopup = some "Editor" :=
    ⟨_, _, rfl, rfl, by decide +kernel⟩
  have hloaded : document.Loaded := ⟨Json.loans, rfl, hload⟩
  obtain ⟨tokens, hscan, hmarks, hperm, hdistinct⟩ := marks_run hmount [.invoke "openEditor"]
  exact ⟨document, first, tokens, hloaded, hmount, hopen, hscan, hmarks, hperm, hdistinct hloaded⟩

end Preview

end Wireframe
