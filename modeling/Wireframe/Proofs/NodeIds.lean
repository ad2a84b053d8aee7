import Wireframe.Proofs.Naming
import Wireframe.Proofs.Parts

/-!
# The ids of drawn nodes

The parts of a component are named by segments: numbers for children and items, and the names of slots
around them. So whatever is drawn is named by the id it is given, however deep the drawing goes, and
the ids of a whole screen are different if those of the tabs are (`Stage.named_screen`).
-/

namespace Wireframe

/-- Whether every child is drawn as a tree named by the id it is given. -/
def Draw.Names (draw : Draw) : Prop :=
  ∀ scope child id, (draw scope child id).Named id

namespace Site

variable (site : Site) {draw : Draw} (scope : Scope)

/-! ### Parts -/

lemma namedIn_slotParts (h : draw.Names) (slot : Slot) :
    Node.NamedIn site.id [slot.name] ((site.slotParts slot).map (Part.draw draw scope)) := by
  simp only [slotParts]
  cases site.component.slots.get? slot with
  | none => exact .none _
  | some child => exact .single (h scope child _)

lemma namedIn_slot (h : draw.Names) (slot : Slot) :
    Node.NamedIn site.id [slot.name] (site.slot? draw slot).toList := by
  rw [← map_slotParts]
  exact site.namedIn_slotParts site.scope h slot

lemma namedIn_children (h : draw.Names) :
    Node.NamedIn site.id (indices site.component.allChildren.length) (site.children draw scope) :=
  .mapIdx (fun _ _ => h _ _ _) _

lemma namedIn_childParts (h : draw.Names) :
    Node.NamedIn site.id (indices site.component.allChildren.length)
      (site.childParts.map (Part.draw draw scope)) := by
  rw [map_childParts]
  exact site.namedIn_children scope h

lemma named_itemPart (h : draw.Names) (index : Nat) (item : Json) :
    ((site.itemPart index item).draw draw scope).Named (site.partId (Nat.repr index)) := by
  have hsegments : Segments ["0"] := ⟨by decide, by decide⟩
  have hid : site.partId (Nat.repr index) ++ "/0" = site.partId (Nat.repr index) ++ "/" ++ "0" := by
    rw [String.append_assoc]
    rfl
  simp only [itemPart]
  cases site.template? with
  | none =>
    refine Node.named_of_children hsegments rfl (.single ?_)
    rw [← hid]
    exact Node.named_of_leaf rfl rfl
  | some template =>
    refine Node.named_of_children hsegments rfl (.single ?_)
    rw [← hid]
    exact h _ _ _

lemma namedIn_emptyParts (h : draw.Names) :
    Node.NamedIn site.id ["empty"] (site.emptyParts.map (Part.draw draw scope)) := by
  simp only [emptyParts]
  cases site.component.slots.emptyView with
  | none => exact .none _
  | some child =>
    have hsegments : Segments ["0"] := ⟨by decide, by decide⟩
    have hid : site.partId "empty/0" = site.id ++ "/" ++ "empty" ++ "/" ++ "0" := by
      simp only [partId, String.append_assoc]
      rfl
    refine .single (Node.named_of_children hsegments rfl (.single ?_))
    rw [← hid]
    exact h _ _ _

/-- A slot of a list, which a template that stands by itself does not have. -/
lemma namedIn_frameParts (h : draw.Names) (framed : Prop) [Decidable framed] (slot : Slot) :
    Node.NamedIn site.id [slot.name]
      ((if framed then site.slotParts slot else []).map (Part.draw draw scope)) := by
  split
  · exact site.namedIn_slotParts scope h slot
  · exact .none _

/-- Items are numbered; where there are none, the empty view has a name. -/
lemma namedIn_listParts (h : draw.Names) :
    ∃ parts, Segments parts ∧ Node.NamedIn site.id parts
      (site.listParts.map (Part.draw draw scope)) := by
  have hheader : Node.NamedIn site.id ["header"] _ :=
    site.namedIn_frameParts scope h (site.component.type ≠ .dataTemplate) .header
  have hfooter : Node.NamedIn site.id ["footer"] _ :=
    site.namedIn_frameParts scope h (site.component.type ≠ .dataTemplate) .footer
  simp only [listParts, List.map_append]
  cases (site.value .items).items?.getD [] with
  | nil =>
    refine ⟨["header", "empty", "footer"], ⟨by decide, by decide⟩, ?_⟩
    exact (hheader.append (site.namedIn_emptyParts scope h)).append hfooter
  | cons item items =>
    have hitems : Node.NamedIn site.id (indices (item :: items).length)
        (((item :: items).mapIdx site.itemPart).map (Part.draw draw scope)) := by
      rw [map_mapIdx]
      exact .mapIdx (fun index item => site.named_itemPart scope h index item) _
    refine ⟨["header"] ++ (indices (item :: items).length ++ ["footer"]),
      segments_around ⟨by decide, by decide⟩ (by decide) _, ?_⟩
    have hlist := (hheader.append hitems).append hfooter
    rw [List.append_assoc] at hlist
    exact hlist

lemma segments_indices (count : Nat) : Segments (indices count) := by
  simpa using @segments_around [] [] ⟨by simp, by simp⟩ (by simp) count

lemma namedIn_parts (h : draw.Names) :
    ∃ parts, Segments parts ∧ Node.NamedIn site.id parts
      (site.parts.map (Part.draw draw scope)) := by
  have hchildren : ∃ parts, Segments parts ∧ Node.NamedIn site.id parts
      (site.childParts.map (Part.draw draw scope)) :=
    ⟨_, segments_indices _, site.namedIn_childParts scope h⟩
  have hnone : ∃ parts, Segments parts ∧ Node.NamedIn site.id parts
      (([] : List Part).map (Part.draw draw scope)) :=
    ⟨[], ⟨by simp, by simp⟩, .nil⟩
  simp only [parts]
  split
  · refine ⟨["content"] ++ (indices site.component.allChildren.length ++ []),
      segments_around ⟨by decide, by decide⟩ (by decide) _, ?_⟩
    rw [List.map_append, List.append_nil]
    exact (site.namedIn_slotParts scope h .content).append (site.namedIn_childParts scope h)
  · exact hchildren
  · exact hchildren
  · exact hchildren
  · exact hchildren
  · exact site.namedIn_listParts scope h
  · refine ⟨["content"], ⟨by decide, by decide⟩, ?_⟩
    cases site.component.slots.content.or site.component.allChildren.head? with
    | none => exact .none _
    | some child => exact .single (h scope child _)
  · split
    · exact hchildren
    · exact hnone
  · exact hnone

theorem named_node (h : draw.Names) : (site.node draw).Named site.id := by
  obtain ⟨parts, hsegments, hparts⟩ := site.namedIn_parts site.handed h
  rw [node_eq]
  exact Node.named_of_children hsegments site.id_face hparts

end Site

namespace Stage

variable (stage : Stage) (session : Session)

/-- Every child is drawn as a tree named by its id, however deep the drawing goes. -/
theorem names_draw (depth : Nat) : Draw.Names (stage.draw session depth) := by
  induction depth with
  | zero => exact fun _ _ _ => Node.named_of_leaf rfl rfl
  | succ depth ih =>
    intro scope child id
    cases child with
    | «inline» component => exact (stage.site session scope component id).named_node ih
    | reference reference =>
      simp only [draw]
      split
      · next component _ =>
        exact (stage.site session scope (component.overridden reference) id).named_node ih
      · exact Node.named_of_leaf rfl rfl

theorem named_single (componentId : String) :
    (stage.single session componentId).Named ("player/" ++ componentId) :=
  stage.names_draw session maxDepth _ _ _

/-! ### Screens -/

lemma named_page : (stage.page session).Named (screenId ++ "/" ++ "page") := by
  simp only [page]
  split
  · have hsegments : Segments ["0"] := ⟨by decide, by decide⟩
    refine Node.named_of_children hsegments rfl (.toList fun node hnode => ?_)
    obtain ⟨layout, -, rfl⟩ := Option.map_eq_some_iff.mp hnode
    exact stage.names_draw session maxDepth _ _ _
  · exact Node.named_of_leaf rfl rfl

/-- The ids of the entries end in the ids of the tabs, whatever these are made of. -/
lemma named_tabBar (h : (stage.document.tabs.map Tab.id).Nodup) :
    (stage.tabBar session).Named (screenId ++ "/" ++ "tabs") := by
  refine Node.named_of_leaves rfl (fun entry hentry => ?_) ?_
  · obtain ⟨tab, -, rfl⟩ := List.mem_map.mp hentry
    exact ⟨rfl, tab.id, rfl⟩
  · have hids : (stage.tabBar session).children.map Node.id
        = (stage.document.tabs.map Tab.id).map (screenId ++ "/tabs" ++ "/" ++ ·) := by
      simp only [tabBar, List.map_map]
      rfl
    rw [hids]
    refine h.map fun tab other heq => ?_
    simpa [← String.toList_inj] using heq

lemma segments_popup (count : Nat) :
    Segments (["close", "content"] ++ (indices count ++ ["footer"])) :=
  segments_around ⟨by decide, by decide⟩ (by decide) count

/-- The footer is drawn in a scope of its own, which names nothing. -/
lemma namedIn_popup {popupId : String} {component : Component}
    (hfound : stage.document.component? popupId = some component) :
    Node.NamedIn (screenId ++ "/popup")
      (["close", "content"] ++ (indices component.allChildren.length ++ ["footer"]))
      (stage.popup session popupId).children := by
  simp only [popup, hfound]
  have hnames := stage.names_draw session (maxDepth - 1)
  let site := stage.site session {} component (screenId ++ "/popup")
  have hclose : Node.NamedIn site.id ["close"]
      [Node.button (screenId ++ "/popup" ++ "/close") "" (some "close") (some .closePopup)] :=
    .single (Node.named_of_leaf rfl rfl)
  have hcontent := (site.namedIn_slot hnames .content).append (site.namedIn_children {} hnames)
  have hfooter := Site.namedIn_slot { site with scope := { inPopupFooter := true } } hnames .footer
  exact hclose.append (hcontent.append hfooter)

lemma named_popup (popupId : String) :
    (stage.popup session popupId).Named (screenId ++ "/" ++ "popup") := by
  cases hfound : stage.document.component? popupId with
  | none =>
    simp only [popup, hfound]
    exact Node.named_of_leaf rfl rfl
  | some component =>
    refine Node.named_of_children (segments_popup _) ?_ (stage.namedIn_popup session hfound)
    simp only [popup, hfound]
    rfl

lemma named_snackbar {node : Node} (h : stage.snackbar? session = some node) :
    node.Named (screenId ++ "/" ++ "snackbar") := by
  obtain ⟨⟨id, component⟩, -, rfl⟩ := Option.map_eq_some_iff.mp h
  let bar := screenId ++ "/snackbar"
  have hsegments : Segments ["action", "dismiss"] := ⟨by decide, by decide⟩
  have haction : ∀ (label : Option String) (action : Option String),
      Node.NamedIn bar ["action"] (label.toList.map fun text =>
        Node.button (bar ++ "/action") text none (some (.snackbarAction action)))
    | none, _ => .none _
    | some _, _ => .single (Node.named_of_leaf rfl rfl)
  have hdismiss : Node.NamedIn bar ["dismiss"]
      [Node.button (bar ++ "/dismiss") "" (some "close") (some .dismissSnackbar)] :=
    .single (Node.named_of_leaf rfl rfl)
  exact Node.named_of_children hsegments rfl ((haction _ _).append hdismiss)

/-- The ids of a screen are all different, if the ids of the tabs are. -/
theorem named_screen (h : (stage.document.tabs.map Tab.id).Nodup) :
    (stage.screen session).Named screenId := by
  have hsegments : Segments ["page", "tabs", "popup", "snackbar"] := ⟨by decide, by decide⟩
  have hpage : Node.NamedIn screenId ["page"] [stage.page session] :=
    .single (stage.named_page session)
  have htabs : Node.NamedIn screenId ["tabs"]
      (if stage.document.tabs.isEmpty then [] else [stage.tabBar session]) := by
    split
    · exact .none _
    · exact .single (stage.named_tabBar session h)
  have hpopup : Node.NamedIn screenId ["popup"]
      (session.openPopup.map (stage.popup session)).toList := by
    refine .toList fun node hnode => ?_
    obtain ⟨popupId, -, rfl⟩ := Option.map_eq_some_iff.mp hnode
    exact stage.named_popup session popupId
  have hsnackbar : Node.NamedIn screenId ["snackbar"]
      (if session.snackbarVisible then (stage.snackbar? session).toList else []) := by
    split
    · exact .toList fun node hnode => stage.named_snackbar session hnode
    · exact .none _
  exact Node.named_of_children hsegments rfl (((hpage.append htabs).append hpopup).append hsnackbar)

end Stage

end Wireframe
