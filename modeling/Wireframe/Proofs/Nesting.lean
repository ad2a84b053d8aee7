import Wireframe.Document.Loading
import Wireframe.Proofs.DrawnNodes

/-!
# How deep screens are nested

References may go round in circles, and still there is one way to draw: the equations of drawing, with
the depth counted from the page on, have one solution. Where a child would come to be drawn, however
deep, is `Stage.Placed`. A mark of too deep nesting stands at the places at the limit and nowhere
else, all places above it are drawn, and the screen has a bounded number of levels
(`Stage.nesting_screen`).
-/

namespace Wireframe

/-! ### Levels -/

namespace Node

mutual
/-- The number of levels of a tree. -/
def levels : Node → Nat
  | ⟨_, _, _, children, _, _⟩ => levelsAll children + 1

def levelsAll : List Node → Nat
  | [] => 0
  | node :: nodes => max (levels node) (levelsAll nodes)
end

lemma levelsAll_le {nodes : List Node} {bound : Nat} :
    levelsAll nodes ≤ bound ↔ ∀ node ∈ nodes, node.levels ≤ bound := by
  induction nodes with
  | nil => simp [levelsAll]
  | cons node nodes ih => rw [levelsAll, Nat.max_le, ih, List.forall_mem_cons]

lemma levels_le_succ {node : Node} {bound : Nat} :
    node.levels ≤ bound + 1 ↔ ∀ child ∈ node.children, child.levels ≤ bound := by
  rw [← levelsAll_le]
  cases node
  simp [levels]

lemma levels_leaf {node : Node} (h : node.children = []) (bound : Nat) :
    node.levels ≤ bound + 1 := by
  rw [levels_le_succ, h]
  exact nofun

/-- Whether a node is the mark of something that is nested too deep. -/
def isTooDeep (node : Node) : Bool :=
  match node.widget with
  | .missing _ .tooDeep => true
  | _ => false

/-- Whether a node looks like what is on a screen without being the node of a component: a region of
the screen or a button of its own, a frame or a label of a list, or a mark that nothing has an id. -/
def isFixture (node : Node) : Bool :=
  match node.widget with
  | .screen .. | .page _ | .tabBar | .tab .. | .popup .. | .snackbar .. | .button .. => true
  | .emptyView | .collectionItem _ | .text .. | .missing _ .notFound => true
  | _ => false

lemma IsFrame.isFixture {node : Node} (h : node.IsFrame) : node.isFixture := by
  rcases h.2 with hwidget | ⟨index, hwidget⟩ <;> rw [Node.isFixture, hwidget]

/-- No mark of too deep nesting is a fixture. -/
lemma isTooDeep_of_isFixture {node : Node} (h : node.isFixture) : node.isTooDeep = false := by
  unfold isFixture at h
  unfold isTooDeep
  split at h <;> simp_all

end Node

/-! ### Places -/

/-- A child that is to be drawn: in a scope, under an id. -/
structure Cue where
  scope : Scope
  child : Child
  id : String

namespace Cue

def draw (draw : Draw) (cue : Cue) : Node :=
  draw cue.scope cue.child cue.id

/-- The mark that stands for what is not drawn since it is nested too deep. -/
def tooDeep (cue : Cue) : Node :=
  Node.missing cue.id cue.child.name .tooDeep

end Cue

/-- What is to be drawn in a part. -/
def Part.cue? (scope : Scope) : Part → Option Cue
  | child content id => some { scope, child := content, id }
  | framed _ item content id =>
    some { scope := { scope with item := item.or scope.item }, child := content, id }
  | plain _ => none

namespace Site

variable (site : Site) (draw : Draw)

/-- What is to be drawn below a component. -/
def cues : List Cue :=
  site.parts.filterMap (Part.cue? site.handed)

variable {site} {draw} {n : Node}

lemma isTooDeep_node : (site.node draw).isTooDeep = false := by
  simp only [node, body]
  cases site.component.type.form with
  | stack =>
    simp only [stack]
    split <;> rfl
  | generic =>
    simp only [other]
    split <;> rfl
  | _ => rfl

/-- What is found at a component is its own node, a fixture, or belongs to something that is to be
drawn there. -/
lemma mem_preorder_cue (hn : n ∈ (site.node draw).preorder) :
    n = site.node draw ∨ (n.isFixture ∧ n.interaction = none)
      ∨ ∃ cue ∈ site.cues, n ∈ (cue.draw draw).preorder := by
  rcases Node.mem_preorder.mp hn with rfl | ⟨child, hchild, hn⟩
  · exact .inl rfl
  · rw [node_eq] at hchild
    obtain ⟨part, hpart, rfl⟩ := List.mem_map.mp hchild
    have hcue : ∀ cue, part.cue? site.handed = some cue → cue ∈ site.cues :=
      fun cue hcue => List.mem_filterMap.mpr ⟨part, hpart, hcue⟩
    cases site.of_parts part hpart with
    | child _ => exact .inr (.inr ⟨_, hcue _ rfl, hn⟩)
    | framed hframe _ =>
      rcases Node.mem_preorder.mp hn with rfl | ⟨content, hcontent, hn⟩
      · exact .inr (.inl ⟨hframe.isFixture, hframe.1⟩)
      · rw [List.mem_singleton.mp hcontent] at hn
        exact .inr (.inr ⟨_, hcue _ rfl, hn⟩)
    | labelled id text index =>
      rcases Node.mem_preorder.mp hn with rfl | ⟨label, hlabel, hn⟩
      · exact .inr (.inl ⟨rfl, rfl⟩)
      · rw [List.mem_singleton.mp hlabel] at hn
        rw [Node.eq_of_mem_leaf rfl hn]
        exact .inr (.inl ⟨rfl, rfl⟩)

/-- Everything that is to be drawn below a component is found there. -/
lemma draw_mem_preorder {cue : Cue} (h : cue ∈ site.cues) :
    cue.draw draw ∈ (site.node draw).preorder := by
  obtain ⟨part, hpart, hcue⟩ := List.mem_filterMap.mp h
  have hbelow : part.draw draw site.handed ∈ (site.node draw).children := by
    rw [node_eq]
    exact List.mem_map_of_mem hpart
  refine Node.mem_preorder.mpr (.inr ⟨_, hbelow, ?_⟩)
  cases part with
  | child content id => cases hcue; exact Node.mem_preorder_self _
  | framed frame item content id =>
    cases hcue
    exact Node.mem_preorder.mpr (.inr ⟨_, List.mem_singleton_self _, Node.mem_preorder_self _⟩)
  | plain node => cases hcue

/-- A component adds its own level and that of a frame. -/
lemma levels_node {bound : Nat} (hbound : 0 < bound)
    (h : ∀ scope content id, (draw scope content id).levels ≤ bound) :
    (site.node draw).levels ≤ bound + 2 := by
  rw [Node.levels_le_succ, node_eq]
  intro child hchild
  obtain ⟨part, hpart, rfl⟩ := List.mem_map.mp hchild
  cases site.of_parts part hpart with
  | child _ => exact Nat.le_succ_of_le (h _ _ _)
  | framed _ _ =>
    rw [Node.levels_le_succ]
    intro content hcontent
    rw [List.mem_singleton.mp hcontent]
    exact h _ _ _
  | labelled id text index =>
    rw [Node.levels_le_succ]
    intro label hlabel
    rw [List.mem_singleton.mp hlabel]
    exact Nat.le_trans (Node.levels_leaf rfl 0) hbound

end Site

namespace Stage

variable (stage : Stage) (session : Session)

/-! ### Drawings -/

/-- The component that a child is drawn as, if it is declared. -/
def resolve? : Child → Option Component
  | .inline component => some component
  | .reference reference =>
    (stage.document.component? reference.id).map (Component.overridden · reference)

/-- Whether children are drawn so, if the drawing is told how deep they are: as their components with
what is below them one level deeper, and from the limit on as marks. -/
structure Draws (render : Nat → Draw) : Prop where
  shallow : ∀ depth < maxDepth, ∀ cue : Cue, cue.draw (render depth) =
    match stage.resolve? cue.child with
    | some component => (stage.site session cue.scope component cue.id).node (render (depth + 1))
    | none => Node.missing cue.id cue.child.name .notFound
  deep : ∀ depth, maxDepth ≤ depth → ∀ cue : Cue, cue.draw (render depth) = cue.tooDeep

/-- The drawing of what is this deep. -/
def drawAt (depth : Nat) : Draw :=
  stage.draw session (maxDepth - depth)

variable {stage session}

lemma draw_succ (depth : Nat) (cue : Cue) : cue.draw (stage.draw session (depth + 1)) =
    match stage.resolve? cue.child with
    | some component =>
      (stage.site session cue.scope component cue.id).node (stage.draw session depth)
    | none => Node.missing cue.id cue.child.name .notFound := by
  obtain ⟨scope, child, id⟩ := cue
  cases child with
  | «inline» component => rfl
  | reference reference =>
    simp only [Cue.draw, draw, resolve?]
    cases stage.document.component? reference.id <;> rfl

lemma draws_drawAt : stage.Draws session (stage.drawAt session) where
  shallow := fun depth hdepth cue => by
    have hsub : maxDepth - depth = (maxDepth - (depth + 1)) + 1 := by omega
    rw [drawAt, hsub]
    exact draw_succ _ cue
  deep := fun depth hdepth cue => by
    rw [drawAt, Nat.sub_eq_zero_of_le hdepth]
    rfl

/-- Two drawings that draw so are the same: what is left down to the limit decreases. -/
lemma Draws.unique {render other : Nat → Draw} (h : stage.Draws session render)
    (h' : stage.Draws session other) : render = other := by
  have hleft : ∀ left depth, maxDepth ≤ depth + left → render depth = other depth := by
    intro left
    induction left with
    | zero =>
      intro depth hdepth
      funext scope child id
      exact (h.deep depth hdepth ⟨scope, child, id⟩).trans
        (h'.deep depth hdepth ⟨scope, child, id⟩).symm
    | succ left ih =>
      intro depth hdepth
      by_cases hdeep : maxDepth ≤ depth
      · exact ih depth (Nat.le_trans hdeep (Nat.le_add_right _ _))
      · have hbelow : render (depth + 1) = other (depth + 1) := ih (depth + 1) (by omega)
        funext scope child id
        have hrender := h.shallow depth (Nat.lt_of_not_le hdeep) ⟨scope, child, id⟩
        rw [hbelow] at hrender
        exact hrender.trans (h'.shallow depth (Nat.lt_of_not_le hdeep) ⟨scope, child, id⟩).symm
  exact funext fun depth => hleft maxDepth depth (Nat.le_add_left _ _)

lemma levels_draw (depth : Nat) (scope : Scope) (child : Child) (id : String) :
    (stage.draw session depth scope child id).levels ≤ 2 * depth + 1 := by
  induction depth generalizing scope child id with
  | zero => exact Node.levels_leaf rfl _
  | succ depth ih =>
    rcases stage.draw_cases session depth scope child id with ⟨component, hdraw⟩ | ⟨reference, hdraw⟩
    · rw [hdraw]
      exact Site.levels_node (Nat.succ_pos _) ih
    · rw [hdraw]
      exact Node.levels_leaf rfl _

/-! ### Where children are drawn -/

variable (stage session)

/-- What the page and the open popup begin with; what stands in a popup is one level below it. -/
inductive Begun : Nat → Cue → Prop where
  | page {page : Page} {layout : Child} (hpage : stage.activePage? session = some page)
      (h : page.layout = some layout) :
      Begun 0 { scope := {}, child := layout, id := screenId ++ "/page" ++ "/0" }
  | content {popupId : String} {component : Component} {child : Child}
      (hopen : session.openPopup = some popupId)
      (hfound : stage.document.component? popupId = some component)
      (h : component.slots.content = some child) :
      Begun 1 { scope := {}, child, id := screenId ++ "/popup" ++ "/" ++ "content" }
  | child {popupId : String} {component : Component} {child : Child} {i : Nat}
      (hopen : session.openPopup = some popupId)
      (hfound : stage.document.component? popupId = some component)
      (h : component.allChildren[i]? = some child) :
      Begun 1 { scope := {}, child, id := screenId ++ "/popup" ++ "/" ++ Nat.repr i }
  | footer {popupId : String} {component : Component} {child : Child}
      (hopen : session.openPopup = some popupId)
      (hfound : stage.document.component? popupId = some component)
      (h : component.slots.footer = some child) :
      Begun 1
        { scope := { inPopupFooter := true }, child, id := screenId ++ "/popup" ++ "/" ++ "footer" }

/-- Where children come to be drawn if nothing stops at a limit, and how deep they are. References are
followed wherever they lead. -/
inductive Placed : Nat → Cue → Prop where
  | begun {depth : Nat} {cue : Cue} (h : stage.Begun session depth cue) : Placed depth cue
  | inner {depth : Nat} {cue next : Cue} {component : Component} (h : Placed depth cue)
      (hcomponent : stage.resolve? cue.child = some component)
      (hnext : next ∈ (stage.site session cue.scope component cue.id).cues) :
      Placed (depth + 1) next

variable {stage session} {n : Node}

lemma mem_children_page {child : Node} : child ∈ (stage.page session).children
    ↔ ∃ cue, stage.Begun session 0 cue ∧ child = cue.draw (stage.drawAt session 0) := by
  constructor
  · intro hchild
    simp only [page] at hchild
    split at hchild
    · next page hpage =>
      obtain ⟨layout, hlayout, rfl⟩ := Option.map_eq_some_iff.mp (Option.mem_toList.mp hchild)
      exact ⟨_, .page hpage hlayout, rfl⟩
    · cases hchild
  · rintro ⟨cue, hbegun, rfl⟩
    cases hbegun with
    | page hpage hlayout =>
      simp only [page, hpage, hlayout]
      exact List.mem_singleton_self _

/-- A popup shows what it begins with, below its button. -/
lemma mem_children_popup {popupId : String} (hopen : session.openPopup = some popupId)
    {component : Component} (hfound : stage.document.component? popupId = some component)
    {child : Node} : child ∈ (stage.popup session popupId).children
    ↔ child = closeButton
      ∨ ∃ cue, stage.Begun session 1 cue ∧ child = cue.draw (stage.drawAt session 1) := by
  simp only [popup, hfound]
  constructor
  · intro hchild
    rcases List.mem_cons.mp hchild with rfl | hchild
    · exact .inl rfl
    · simp only [List.mem_append, Option.mem_toList, or_assoc] at hchild
      rcases hchild with hcontent | hchild | hfooter
      · obtain ⟨content, hslot, rfl⟩ := Option.map_eq_some_iff.mp hcontent
        exact .inr ⟨_, .content hopen hfound hslot, rfl⟩
      · obtain ⟨i, hi, rfl⟩ := List.mem_mapIdx.mp hchild
        exact .inr ⟨_, .child hopen hfound (List.getElem?_eq_getElem hi), rfl⟩
      · obtain ⟨content, hslot, rfl⟩ := Option.map_eq_some_iff.mp hfooter
        exact .inr ⟨_, .footer hopen hfound hslot, rfl⟩
  · rintro (rfl | ⟨cue, hbegun, rfl⟩)
    · exact List.mem_cons_self
    · refine List.mem_cons_of_mem _ ?_
      simp only [List.mem_append, Option.mem_toList, or_assoc]
      cases hbegun with
      | content hopen' hfound' h =>
        cases hopen.symm.trans hopen'
        cases hfound.symm.trans hfound'
        exact .inl (Option.map_eq_some_iff.mpr ⟨_, h, rfl⟩)
      | child hopen' hfound' h =>
        cases hopen.symm.trans hopen'
        cases hfound.symm.trans hfound'
        obtain ⟨hi, rfl⟩ := List.getElem?_eq_some_iff.mp h
        exact .inr (.inl (List.mem_mapIdx.mpr ⟨_, hi, rfl⟩))
      | footer hopen' hfound' h =>
        cases hopen.symm.trans hopen'
        cases hfound.symm.trans hfound'
        exact .inr (.inr (Option.map_eq_some_iff.mpr ⟨_, h, rfl⟩))

lemma Begun.mem_screen {depth : Nat} {cue : Cue} (h : stage.Begun session depth cue) :
    cue.draw (stage.drawAt session depth) ∈ (stage.screen session).preorder := by
  have hbelow : ∀ (region : Node) {node : Node}, region ∈ (stage.screen session).children →
      node ∈ region.children → node ∈ (stage.screen session).preorder := fun _ _ hregion hnode =>
    Node.mem_preorder.mpr (.inr ⟨_, hregion, Node.mem_preorder.mpr
      (.inr ⟨_, hnode, Node.mem_preorder_self _⟩)⟩)
  have hpopup : ∀ {popupId component}, session.openPopup = some popupId →
      stage.document.component? popupId = some component → stage.Begun session 1 cue →
        cue.draw (stage.drawAt session 1) ∈ (stage.screen session).preorder := by
    intro popupId component hopen hfound hbegun
    refine hbelow (stage.popup session popupId) ?_
      ((mem_children_popup hopen hfound).mpr (.inr ⟨cue, hbegun, rfl⟩))
    simp [screen, hopen]
  cases h with
  | page hpage hlayout =>
    refine hbelow (stage.page session) ?_
      (mem_children_page.mpr ⟨_, .page hpage hlayout, rfl⟩)
    simp [screen]
  | content hopen hfound h => exact hpopup hopen hfound (.content hopen hfound h)
  | child hopen hfound h => exact hpopup hopen hfound (.child hopen hfound h)
  | footer hopen hfound h => exact hpopup hopen hfound (.footer hopen hfound h)

/-- Down to the limit, everything is drawn where it comes to be drawn. -/
lemma Placed.mem_screen {depth : Nat} {cue : Cue} (h : stage.Placed session depth cue)
    (hdepth : depth ≤ maxDepth) :
    cue.draw (stage.drawAt session depth) ∈ (stage.screen session).preorder := by
  induction h with
  | begun h => exact h.mem_screen
  | inner _ hcomponent hnext ih =>
    have habove := ih (Nat.le_of_succ_le hdepth)
    rw [draws_drawAt.shallow _ hdepth, hcomponent] at habove
    exact Node.mem_preorder_trans (Site.draw_mem_preorder hnext) _ habove

/-! ### What a screen is made of -/

/-- A node of the screen is a fixture with at most an interaction of the screen itself, or belongs to
what the page or the popup begins with. -/
lemma begun_of_mem_screen (hn : n ∈ (stage.screen session).preorder) :
    (n.isFixture ∧ ∀ interaction ∈ n.interaction, interaction.isOfScreen)
      ∨ ∃ depth cue, stage.Begun session depth cue
        ∧ n ∈ (cue.draw (stage.drawAt session depth)).preorder := by
  rcases Node.mem_preorder.mp hn with rfl | ⟨region, hregion, hn⟩
  · exact .inl ⟨rfl, by rintro _ ⟨⟩⟩
  rcases mem_children_screen hregion with rfl | rfl | ⟨popupId, hopen, rfl⟩ | hsnackbar
  · rcases Node.mem_preorder.mp hn with rfl | ⟨child, hchild, hn⟩
    · simp only [page]
      split <;> exact .inl ⟨rfl, by rintro _ ⟨⟩⟩
    · obtain ⟨cue, hbegun, rfl⟩ := mem_children_page.mp hchild
      exact .inr ⟨0, cue, hbegun, hn⟩
  · rcases Node.mem_preorder.mp hn with rfl | ⟨entry, hentry, hn⟩
    · exact .inl ⟨rfl, by rintro _ ⟨⟩⟩
    · obtain ⟨tab, -, rfl⟩ := List.mem_map.mp hentry
      rw [Node.eq_of_mem_leaf rfl hn]
      exact .inl ⟨rfl, by rintro _ ⟨⟩; rfl⟩
  · cases hfound : stage.document.component? popupId with
    | none =>
      simp only [popup, hfound] at hn
      rw [Node.eq_of_mem_leaf rfl hn]
      exact .inl ⟨rfl, by rintro _ ⟨⟩⟩
    | some component =>
      rcases Node.mem_preorder.mp hn with rfl | ⟨child, hchild, hn⟩
      · simp only [popup, hfound]
        exact .inl ⟨rfl, by rintro _ ⟨⟩; rfl⟩
      · rcases (mem_children_popup hopen hfound).mp hchild with rfl | ⟨cue, hbegun, rfl⟩
        · rw [Node.eq_of_mem_leaf rfl hn]
          exact .inl ⟨rfl, by rintro _ ⟨⟩; rfl⟩
        · exact .inr ⟨1, cue, hbegun, hn⟩
  · rcases Node.mem_preorder.mp hn with rfl | ⟨child, hchild, hn⟩
    · obtain ⟨⟨id, component⟩, -, rfl⟩ := Option.map_eq_some_iff.mp hsnackbar
      exact .inl ⟨rfl, by rintro _ ⟨⟩⟩
    · obtain ⟨id, caption, glyph, interaction, rfl, hinteraction⟩ :=
        button_of_mem_snackbar hsnackbar hchild
      rw [Node.eq_of_mem_leaf rfl hn]
      exact .inl ⟨rfl, by rintro _ ⟨⟩; exact hinteraction⟩

variable (stage session) in
/-- The nodes that a screen is made of. -/
inductive Made : Node → Prop where
  | fixture {node : Node} (h : node.isFixture)
      (hofScreen : ∀ interaction ∈ node.interaction, interaction.isOfScreen) : Made node
  | tooDeep {cue : Cue} (h : stage.Placed session maxDepth cue) : Made cue.tooDeep
  | component {depth : Nat} {cue : Cue} {component : Component} (h : stage.Placed session depth cue)
      (hcomponent : stage.resolve? cue.child = some component) :
      Made ((stage.site session cue.scope component cue.id).node (stage.drawAt session (depth + 1)))

/-- What belongs to something that is placed is a fixture, a mark for something at the limit, or the
node of a component that is placed. -/
lemma Placed.made {left depth : Nat} {cue : Cue} (h : stage.Placed session depth cue)
    (hleft : depth + left = maxDepth) (hn : n ∈ (cue.draw (stage.drawAt session depth)).preorder) :
    stage.Made session n := by
  -- what is left down to the limit, since references may go round in circles
  induction left generalizing depth cue with
  | zero =>
    rw [draws_drawAt.deep depth (Nat.le_of_eq hleft.symm)] at hn
    rw [Node.eq_of_mem_leaf rfl hn]
    exact .tooDeep (hleft ▸ h)
  | succ left ih =>
    rw [draws_drawAt.shallow depth (by omega)] at hn
    split at hn
    · next component hcomponent =>
      rcases Site.mem_preorder_cue hn with rfl | hfixture | ⟨next, hnext, hn⟩
      · exact .component h hcomponent
      · exact .fixture hfixture.1 (by simp [hfixture.2])
      · exact ih (.inner h hcomponent hnext) (by omega) hn
    · rw [Node.eq_of_mem_leaf rfl hn]
      exact .fixture rfl nofun

/-- Every node of a screen is one of these. -/
theorem made_of_mem_screen (hn : n ∈ (stage.screen session).preorder) : stage.Made session n := by
  rcases begun_of_mem_screen hn with ⟨hfixture, hofScreen⟩ | ⟨depth, cue, hbegun, hn⟩
  · exact .fixture hfixture hofScreen
  · have hdepth : depth ≤ maxDepth := by cases hbegun <;> decide
    exact Placed.made (.begun hbegun) (Nat.add_sub_cancel' hdepth) hn

lemma tooDeep_iff : (n ∈ (stage.screen session).preorder ∧ n.isTooDeep)
    ↔ ∃ cue, stage.Placed session maxDepth cue ∧ n = cue.tooDeep := by
  constructor
  · rintro ⟨hn, hdeep⟩
    cases made_of_mem_screen hn with
    | fixture hfixture =>
      rw [Node.isTooDeep_of_isFixture hfixture] at hdeep
      cases hdeep
    | tooDeep hplaced => exact ⟨_, hplaced, rfl⟩
    | component _ _ =>
      rw [Site.isTooDeep_node] at hdeep
      cases hdeep
  · rintro ⟨cue, hplaced, rfl⟩
    refine ⟨?_, rfl⟩
    have hmem := hplaced.mem_screen (Nat.le_refl _)
    rwa [draws_drawAt.deep _ (Nat.le_refl _)] at hmem

/-! ### Levels of the screen -/

lemma Begun.levels {depth : Nat} {cue : Cue} (_ : stage.Begun session depth cue) :
    (cue.draw (stage.drawAt session depth)).levels ≤ 129 :=
  Nat.le_trans (levels_draw _ _ _ _)
    (Nat.succ_le_succ (Nat.mul_le_mul_left 2 (Nat.sub_le maxDepth depth)))

lemma levels_screen : (stage.screen session).levels ≤ 131 := by
  have hleaves : ∀ {region : Node}, (∀ child ∈ region.children, child.children = []) →
      region.levels ≤ 130 := by
    intro region hleaf
    rw [Node.levels_le_succ]
    exact fun child hchild => Node.levels_leaf (hleaf child hchild) _
  rw [Node.levels_le_succ]
  intro region hregion
  rcases mem_children_screen hregion with rfl | rfl | ⟨popupId, hopen, rfl⟩ | hsnackbar
  · rw [Node.levels_le_succ]
    intro child hchild
    obtain ⟨cue, hbegun, rfl⟩ := mem_children_page.mp hchild
    exact hbegun.levels
  · exact hleaves fun child hchild => (tab_of_mem_tabBar hchild).1
  · cases hfound : stage.document.component? popupId with
    | none =>
      simp only [popup, hfound]
      exact Node.levels_leaf rfl _
    | some component =>
      rw [Node.levels_le_succ]
      intro child hchild
      rcases (mem_children_popup hopen hfound).mp hchild with rfl | ⟨cue, hbegun, rfl⟩
      · exact Node.levels_leaf rfl _
      · exact hbegun.levels
  · refine hleaves fun child hchild => ?_
    obtain ⟨id, caption, glyph, interaction, rfl, -⟩ := button_of_mem_snackbar hsnackbar hchild
    rfl

/-! ### Nesting -/

end Stage

/-- Everything that a component contains. -/
def Component.contents (component : Component) : List Child :=
  component.allChildren ++ Slot.all.filterMap component.slots.get?

lemma Component.mem_contents {component : Component} {child : Child}
    (h : component.Contains child) : child ∈ component.contents := by
  rcases h with hchild | ⟨slot, hslot⟩
  · exact List.mem_append_left _ hchild
  · refine List.mem_append_right _ (List.mem_filterMap.mpr ⟨slot, ?_, hslot⟩)
    cases slot <;> decide

/-- A component contains what is to be drawn below it. -/
lemma Site.contains_of_mem_cues {site : Site} {cue : Cue} (h : cue ∈ site.cues) :
    site.component.Contains cue.child := by
  obtain ⟨part, hpart, hcue⟩ := List.mem_filterMap.mp h
  cases site.of_parts part hpart with
  | child hcontains => cases hcue; exact hcontains
  | framed _ hcontains => cases hcue; exact hcontains
  | labelled id text index => cases hcue

namespace Stage

/-- Whether fewer than so many components are nested in a child as it is written, with references
followed. -/
def nestsBelow (stage : Stage) : Nat → Child → Bool
  | 0, _ => false
  | depth + 1, child =>
    match stage.resolve? child with
    | some component => component.contents.all (stage.nestsBelow depth)
    | none => true

variable {stage : Stage} {session : Session}

lemma nestsBelow_of_contains {left : Nat} {child inner : Child} {component : Component}
    (h : stage.nestsBelow (left + 1) child) (hcomponent : stage.resolve? child = some component)
    (hinner : component.Contains inner) : stage.nestsBelow left inner := by
  rw [nestsBelow, hcomponent] at h
  exact List.all_eq_true.mp h _ (Component.mem_contents hinner)

/-- What is placed this deep is nested so much less. -/
lemma Placed.nestsBelow {depth : Nat} {cue : Cue} (h : stage.Placed session depth cue)
    (hbegun : ∀ depth cue, stage.Begun session depth cue →
      ∃ left, depth + left = maxDepth ∧ stage.nestsBelow left cue.child) :
    ∃ left, depth + left = maxDepth ∧ stage.nestsBelow left cue.child := by
  induction h with
  | begun h => exact hbegun _ _ h
  | inner _ hcomponent hnext ih =>
    obtain ⟨left, hleft, hnests⟩ := ih
    cases left with
    | zero => cases hnests
    | succ left =>
      exact ⟨left, by omega,
        nestsBelow_of_contains hnests hcomponent (Site.contains_of_mem_cues hnext)⟩

lemma begun_nestsBelow
    (hpage : ∀ page layout, stage.activePage? session = some page → page.layout = some layout →
      stage.nestsBelow maxDepth layout)
    (hpopup : ∀ popupId, session.openPopup = some popupId →
      stage.nestsBelow maxDepth (.reference { id := popupId }))
    {depth : Nat} {cue : Cue} (h : stage.Begun session depth cue) :
    ∃ left, depth + left = maxDepth ∧ stage.nestsBelow left cue.child := by
  have hinside : ∀ {popupId component child}, session.openPopup = some popupId →
      stage.document.component? popupId = some component → component.Contains child →
        ∃ left, 1 + left = maxDepth ∧ stage.nestsBelow left child := by
    intro popupId component child hopen hfound hchild
    have hresolve : stage.resolve? (.reference { id := popupId })
        = some (component.overridden { id := popupId }) := by
      rw [resolve?, hfound]
      rfl
    -- an empty reference overrides nothing that the component contains
    exact ⟨maxDepth - 1, rfl, nestsBelow_of_contains (hpopup popupId hopen) hresolve hchild⟩
  cases h with
  | page hactive hlayout => exact ⟨maxDepth, rfl, hpage _ _ hactive hlayout⟩
  | content hopen hfound h => exact hinside hopen hfound (.inr ⟨.content, h⟩)
  | child hopen hfound h => exact hinside hopen hfound (.inl (List.mem_of_getElem? h))
  | footer hopen hfound h => exact hinside hopen hfound (.inr ⟨.footer, h⟩)

end Stage

/-- A document with a component that contains itself on one page, and a label on the other. -/
def Json.loop : Json :=
  .object
    [("tabs", .object
        [("Round", .object [("page", .string "Round")]),
          ("Plain", .object [("page", .string "Plain")])]),
      ("pages", .object
        [("Round", .object [("layout", .object [("component", .string "Loop")])]),
          ("Plain", .object
            [("layout", .object [("type", .string "Label"), ("text", .string "Here")])])]),
      ("components", .object
        [("Loop", .object
            [("type", .string "VerticalStack"),
              ("children", .array
                [.object [("type", .string "Label"), ("text", .string "Again")],
                  .object [("component", .string "Loop")]])])])]

namespace Stage

/-- Of every document and session there is one drawing. Everything that comes to be drawn is found on
the screen down to the limit; the marks of too deep nesting are those at the limit. The number of levels
is bounded, and if the page and the popup are nested less than the limit there is no such mark. -/
theorem nesting_screen (stage : Stage) (session : Session) :
    (∀ render, stage.Draws session render ↔ render = stage.drawAt session)
      ∧ (∀ depth cue, stage.Placed session depth cue → depth ≤ maxDepth →
        cue.draw (stage.drawAt session depth) ∈ (stage.screen session).preorder)
      ∧ (∀ n, (n ∈ (stage.screen session).preorder ∧ n.isTooDeep)
        ↔ ∃ cue, stage.Placed session maxDepth cue ∧ n = cue.tooDeep)
      ∧ (stage.screen session).levels ≤ 131
      ∧ (∀ componentId, (stage.single session componentId).levels ≤ 131)
      ∧ ((∀ page layout, stage.activePage? session = some page → page.layout = some layout →
          stage.nestsBelow maxDepth layout) →
        (∀ popupId, session.openPopup = some popupId →
          stage.nestsBelow maxDepth (.reference { id := popupId })) →
        ∀ n ∈ (stage.screen session).preorder, ¬ n.isTooDeep) := by
  refine ⟨fun render => ⟨fun h => h.unique draws_drawAt, ?_⟩, fun depth cue h => h.mem_screen,
    fun n => tooDeep_iff, levels_screen, fun componentId => ?_, fun hpage hpopup n hn hdeep => ?_⟩
  · rintro rfl
    exact draws_drawAt
  · exact Nat.le_trans (levels_draw _ _ _ _) (by decide)
  · obtain ⟨cue, hplaced, -⟩ := tooDeep_iff.mp ⟨hn, hdeep⟩
    obtain ⟨left, hleft, hnests⟩ :=
      hplaced.nestsBelow fun depth cue => begun_nestsBelow hpage hpopup
    -- nothing is left at the limit
    obtain rfl : left = 0 := by omega
    cases hnests

/-- On the one page the component goes round for ever, on the other nothing is nested. -/
theorem nesting_screen_loop :
    ∃ document n, Document.ofJson? Json.loop = .ok document
      ∧ (let stage : Stage := { document, options := { now := 0 } }
        let plain := { Session.initial document with activeTab := some "Plain" }
        n ∈ (stage.screen (.initial document)).preorder ∧ n.isTooDeep
          ∧ (∃ cue, stage.Placed (.initial document) maxDepth cue ∧ n = cue.tooDeep)
          ∧ ∀ n ∈ (stage.screen plain).preorder, ¬ n.isTooDeep) := by
  obtain ⟨document, hload, hdeep, hnests⟩ : ∃ document, Document.ofJson? Json.loop = .ok document
      ∧ (Stage.screen { document, options := { now := 0 } } (.initial document)).preorder.any
        Node.isTooDeep
      ∧ (((Stage.activePage? { document, options := { now := 0 } }
          { Session.initial document with activeTab := some "Plain" }).bind Page.layout).all
        (Stage.nestsBelow { document, options := { now := 0 } } maxDepth)) :=
    ⟨_, rfl, by decide +kernel, by decide +kernel⟩
  obtain ⟨n, hn, hdeep⟩ := List.any_eq_true.mp hdeep
  refine ⟨document, n, hload, hn, hdeep,
    ((nesting_screen _ _).2.2.1 n).mp ⟨hn, hdeep⟩, (nesting_screen _ _).2.2.2.2.2 ?_ nofun⟩
  intro page layout hpage hlayout
  rw [hpage, Option.bind_some, hlayout] at hnests
  exact hnests

end Stage

end Wireframe
