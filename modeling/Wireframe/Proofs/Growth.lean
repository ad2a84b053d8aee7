import Wireframe.Proofs.CleanRuns
import Wireframe.Proofs.Nesting
import Mathlib.Algebra.Ring.GeomSum

/-!
# Components that contain themselves

References are followed down to the limit, also where they lead back to the component they stand in. If
it holds several of them, every level has so many times the nodes of the level above it. The limit thus
bounds the levels of a screen, but not the number of its nodes (`Preview.growth_run`).
-/

namespace Wireframe

namespace Node

variable {p : Node → Bool} {count : Nat}

/-- What is counted below nodes of which each has the same number. -/
lemma countP_preorderAll {nodes : List Node} (h : ∀ node ∈ nodes, node.preorder.countP p = count) :
    (preorderAll nodes).countP p = nodes.length * count := by
  induction nodes with
  | nil => simp
  | cons node nodes ih =>
    obtain ⟨hnode, hnodes⟩ := List.forall_mem_cons.mp h
    rw [preorderAll_cons, List.countP_append, hnode, ih hnodes, List.length_cons, Nat.succ_mul,
      Nat.add_comm]

end Node

/-- Whether a component is a stack of this many references to a component and nothing else. -/
structure Component.Repeats (id : String) (copies : Nat) (component : Component) : Prop where
  form : component.type.form = .stack
  children : component.allChildren = List.replicate copies (.reference { id })

lemma Component.Repeats.overridden {id : String} {copies : Nat} {component : Component}
    (h : component.Repeats id copies) (reference : Reference) :
    (component.overridden reference).Repeats id copies :=
  ⟨h.form, h.children⟩

namespace Site

variable {site : Site} {draw : Draw}

lemma children_stack (h : site.component.type.form = .stack) :
    (site.node draw).children = site.children draw site.scope := by
  simp only [node, body, h, stack]

/-- What is counted in a stack of references of which each has the same number. -/
lemma countP_repeats {p : Node → Bool} {id : String} {copies count : Nat}
    (h : site.component.Repeats id copies)
    (hdraw : ∀ scope place, (draw scope (.reference { id }) place).preorder.countP p = count) :
    (site.node draw).preorder.countP p
      = copies * count + if p (site.node draw) then 1 else 0 := by
  have hnodes : ∀ node ∈ site.children draw site.scope, node.preorder.countP p = count := by
    intro node hnode
    obtain ⟨i, hi, rfl⟩ := List.mem_mapIdx.mp hnode
    have hchild : site.component.allChildren[i] ∈ List.replicate copies (.reference { id }) :=
      h.children ▸ List.getElem_mem hi
    rw [List.eq_of_mem_replicate hchild]
    exact hdraw _ _
  rw [Node.preorder_eq, List.countP_cons, children_stack h.form, Node.countP_preorderAll hnodes,
    children, List.length_mapIdx, h.children, List.length_replicate]

end Site

namespace Stage

variable {stage : Stage} {session : Session} {id : String} {component : Component} {copies : Nat}

section

variable (hfound : stage.document.component? id = some component) (h : component.Repeats id copies)
include hfound h

/-- One level more has so many times what is counted below it, besides its own node. -/
lemma countP_draw_succ {p : Node → Bool} {depth count : Nat} {counts : Bool}
    (hnode : ∀ n : Node, n.isTooDeep = false → p n = counts)
    (hdraw : ∀ scope place,
      (stage.draw session depth scope (.reference { id }) place).preorder.countP p = count)
    (scope : Scope) (place : String) :
    (stage.draw session (depth + 1) scope (.reference { id }) place).preorder.countP p
      = copies * count + if counts then 1 else 0 := by
  have hcount : ((stage.site session scope (component.overridden { id }) place).node
      (stage.draw session depth)).preorder.countP p = copies * count + if counts then 1 else 0 := by
    rw [Site.countP_repeats (h.overridden _) hdraw, hnode _ Site.isTooDeep_node]
  simpa only [draw, hfound] using hcount

/-- The marks are those at the limit. -/
lemma countP_isTooDeep_draw (depth : Nat) (scope : Scope) (place : String) :
    (stage.draw session depth scope (.reference { id }) place).preorder.countP Node.isTooDeep
      = copies ^ depth := by
  induction depth generalizing scope place with
  | zero => rfl
  | succ depth ih =>
    rw [countP_draw_succ hfound h (fun _ hn => hn) ih, Nat.pow_succ']
    rfl

/-- The nodes are those of every level down to the limit. -/
lemma countP_true_draw (depth : Nat) (scope : Scope) (place : String) :
    (stage.draw session depth scope (.reference { id }) place).preorder.countP (fun _ => true)
      = ∑ level ∈ Finset.range (depth + 1), copies ^ level := by
  induction depth generalizing scope place with
  | zero => simp [draw, Node.preorder_eq, Node.missing]
  | succ depth ih =>
    rw [countP_draw_succ hfound h (fun _ _ => rfl) ih, if_pos rfl, ← geom_sum_succ]

end

/-! ### Screens -/

lemma preorder_page {page : Page} {layout : Child} (hpage : stage.activePage? session = some page)
    (hlayout : page.layout = some layout) :
    (stage.page session).preorder = stage.page session
      :: (stage.draw session maxDepth {} layout (screenId ++ "/page" ++ "/0")).preorder := by
  rw [Node.preorder_eq]
  simp [Stage.page, hpage, hlayout]

/-- Without tabs, an open popup and a snackbar there is only the page on the screen. -/
lemma preorder_screen (htabs : stage.document.tabs = []) (hsnackbar : stage.document.snackbar? = none)
    (hpopup : session.openPopup = none) :
    (stage.screen session).preorder = stage.screen session :: (stage.page session).preorder := by
  rw [Node.preorder_eq]
  simp [Stage.screen, htabs, hpopup, Stage.snackbar?, hsnackbar]

/-- Without tabs, every session shows the page of a document without tabs. -/
lemma activePage?_of_tabs (htabs : stage.document.tabs = []) :
    stage.activePage? session = stage.document.fallbackPage?.bind stage.document.page? := by
  have htab : session.activeTab.bind stage.document.tab? = none := by
    cases session.activeTab with
    | none => rfl
    | some tab => simp [Document.tab?, htabs]
  rw [activePage?, htab]

end Stage

/-- Whether a document only has a page with a stack around one reference to a component, which is a
stack of this many references to itself. -/
structure Document.Nests (copies : Nat) (document : Document) : Prop where
  tabs : document.tabs = []
  snackbar : document.snackbar? = none
  actions : document.actions = []
  page : ∃ page layout, document.fallbackPage?.bind document.page? = some page
    ∧ page.layout = some (.inline layout) ∧ layout.Repeats "Loop" 1
  component : ∃ component, document.component? "Loop" = some component
    ∧ component.Repeats "Loop" copies

/-- A document with a page that shows a component, and the component holds so many copies of itself. -/
def Json.nest (copies : Nat) : Json :=
  .object
    [("pages", .object
        [("Home", .object
            [("layout", .object
              [("type", .string "VerticalStack"),
                ("children", .array [.object [("component", .string "Loop")]])])])]),
      ("components", .object
        [("Loop", .object
            [("type", .string "VerticalStack"),
              ("children", .array (List.replicate copies (.object [("component", .string "Loop")])))])])]

lemma Document.nests_nest (copies : Nat) :
    ∃ document, ofJson? (Json.nest copies) = .ok document ∧ document.Nests copies := by
  have hcopies : Json.readItems (List.replicate copies (.object [("component", .string "Loop")]))
      = List.replicate copies (.reference { id := "Loop" }) := by
    rw [readItems_eq_filterMap]
    exact List.filterMap_replicate_of_some rfl
  exact ⟨_, rfl, rfl, rfl, rfl, ⟨_, _, rfl, rfl, rfl, rfl⟩, ⟨_, rfl, rfl, hcopies⟩⟩

namespace Stage

variable {stage : Stage} {session : Session} {copies : Nat}

/-- What is counted on the screen is what is counted in the component, besides the screen, the page and
the stack. -/
lemma countP_screen (h : stage.document.Nests copies) (hpopup : session.openPopup = none)
    {p : Node → Bool} {count : Nat} {counts : Bool}
    (hnode : ∀ n : Node, n.isTooDeep = false → p n = counts)
    (hdraw : ∀ scope place, (stage.draw session (maxDepth - 1) scope (.reference { id := "Loop" })
      place).preorder.countP p = count) :
    (stage.screen session).preorder.countP p = count + if counts then 3 else 0 := by
  obtain ⟨page, layout, hactive, hlayout, hstack⟩ := h.page
  rw [← activePage?_of_tabs h.tabs] at hactive
  have hdrawn : stage.draw session maxDepth {} (.inline layout) (screenId ++ "/page" ++ "/0")
      = (stage.site session {} layout (screenId ++ "/page" ++ "/0")).node
        (stage.draw session (maxDepth - 1)) := rfl
  have hpage : (stage.page session).isTooDeep = false := by
    rw [Stage.page, hactive]
    rfl
  rw [preorder_screen h.tabs h.snackbar hpopup, preorder_page hactive hlayout, hdrawn, List.countP_cons,
    List.countP_cons, Site.countP_repeats hstack hdraw, hnode _ Site.isTooDeep_node, hnode _ hpage,
    hnode (stage.screen session) rfl]
  cases counts <;> simp

end Stage

namespace Preview

/-- A document without popup actions opens none. -/
lemma openPopup_run_of_actions {stage : Stage} {canvas : Canvas} {first : Preview}
    (hactions : stage.document.actions = []) (h : mount (some canvas) stage = .ok first)
    (operations : List Operation) : (first.run operations).1.session.openPopup = none := by
  refine Option.eq_none_iff_forall_ne_some.mpr fun popup hopen => ?_
  obtain ⟨name, hdeclared⟩ := popupDeclared_run h operations popup hopen
  rw [Document.action?, hactions] at hdeclared
  cases hdeclared

/-- A page shows a component that holds so many copies of itself. Whatever is done with the preview, at
the limit there are so many marks, to the power of the levels above it; the screen has all nodes of these
levels, and no more levels than any other screen. -/
theorem growth_run (copies : Nat) :
    ∃ document, Document.ofJson? (Json.nest copies) = .ok document
      ∧ ∀ options canvas, ∃ first, mount (some canvas) { document, options } = .ok first
        ∧ ∀ operations,
          let screen := (first.run operations).1.screen
          screen.preorder.countP Node.isTooDeep = copies ^ 63
            ∧ screen.preorder.length = (∑ level ∈ Finset.range 64, copies ^ level) + 3
            ∧ screen.levels ≤ 131 := by
  obtain ⟨document, hload, hnests⟩ := Document.nests_nest copies
  refine ⟨document, hload, fun options canvas => ⟨_, rfl, fun operations => ?_⟩⟩
  have hmount : mount (some canvas) { document, options } = .ok _ := rfl
  have hscreen := screen_run_of_mount hmount operations
  have hpopup := openPopup_run_of_actions hnests.actions hmount operations
  obtain ⟨component, hfound, hrepeats⟩ := hnests.component
  intro screen
  have heq : screen = _ := hscreen
  rw [heq, ← List.countP_true]
  refine ⟨?_, ?_, Stage.levels_screen⟩
  · exact Stage.countP_screen hnests hpopup (fun _ hn => hn)
      (Stage.countP_isTooDeep_draw hfound hrepeats 63)
  · exact Stage.countP_screen hnests hpopup (fun _ _ => rfl)
      (Stage.countP_true_draw hfound hrepeats 63)

end Preview

end Wireframe
