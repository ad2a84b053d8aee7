import Wireframe.Proofs.Targets
import Mathlib.Data.List.Forall2
import Mathlib.Tactic.Common

/-!
# What local values are drawn

Where a value is kept for a node, only the controls that write to it show it. Two sessions that differ
only in that value are thus drawn as trees that match node by node, but for what these controls show
(`Stage.matches_draw`); and once the value is written they show nothing else (`Stage.shows_draw`).
-/

namespace Wireframe

namespace Node

/-- Whether a control shows a value. What is no control shows any value. -/
def Shows (value : Json) (node : Node) : Prop :=
  match node.widget, node.interaction with
  | .textField _ _ text _ _ _ _, _ => text = value.display
  | .toggle _ on _, _ => on = value.isTruthy
  | .radio _ selected, some (.selectRadio _ own) => selected = (value == own)
  | .picker _ _ _ _, some (.cyclePicker _ options current) =>
    current = options.findIdx? (· == value)
  | _, _ => True

/-- Whether nodes are the same but for what they show of the value that is kept under a key, and are
the same if they show the same value. What is below them is left out. -/
structure AlikeBut (key : String) (node other : Node) : Prop where
  id : other.id = node.id
  attributes : other.attributes = node.attributes
  cell : other.cell = node.cell
  target : other.target? = node.target?
  same : (node.target? = some (.local key) → ∃ value, node.Shows value ∧ other.Shows value) →
    other.widget = node.widget ∧ other.interaction = node.interaction

lemma AlikeBut.of_eq {key : String} {node other : Node} (hid : other.id = node.id)
    (hattributes : other.attributes = node.attributes) (hcell : other.cell = node.cell)
    (hwidget : other.widget = node.widget) (hinteraction : other.interaction = node.interaction) :
    node.AlikeBut key other :=
  ⟨hid, hattributes, hcell, by rw [target?, target?, hinteraction],
    fun _ => ⟨hwidget, hinteraction⟩⟩

lemma AlikeBut.refl (key : String) (node : Node) : node.AlikeBut key node :=
  .of_eq rfl rfl rfl rfl rfl

mutual
/-- Whether trees match node by node. -/
inductive MatchesBut (key : String) : Node → Node → Prop where
  | node {node other : Node} (own : node.AlikeBut key other)
      (children : AllMatchBut key node.children other.children) : MatchesBut key node other

inductive AllMatchBut (key : String) : List Node → List Node → Prop where
  | nil : AllMatchBut key [] []
  | cons {node other : Node} {nodes others : List Node} (head : MatchesBut key node other)
      (rest : AllMatchBut key nodes others) : AllMatchBut key (node :: nodes) (other :: others)
end

mutual
theorem MatchesBut.preorder {key : String} {node other : Node} (h : MatchesBut key node other) :
    List.Forall₂ (AlikeBut key) node.preorder other.preorder := by
  match h with
  | .node own children =>
    rw [preorder_eq, preorder_eq]
    exact .cons own children.preorder

theorem AllMatchBut.preorder {key : String} {nodes others : List Node}
    (h : AllMatchBut key nodes others) :
    List.Forall₂ (AlikeBut key) (preorderAll nodes) (preorderAll others) := by
  match h with
  | .nil => exact .nil
  | .cons head rest => exact List.rel_append head.preorder rest.preorder
end

mutual
theorem MatchesBut.refl (key : String) (node : Node) : MatchesBut key node node := by
  match node with
  | ⟨id, widget, attributes, children, interaction, cell⟩ =>
    exact .node (.refl key _) (AllMatchBut.refl key children)

theorem AllMatchBut.refl (key : String) (nodes : List Node) : AllMatchBut key nodes nodes := by
  match nodes with
  | [] => exact .nil
  | node :: nodes => exact .cons (MatchesBut.refl key node) (AllMatchBut.refl key nodes)
end

/-- What matches is the same as soon as it shows the same. -/
lemma AlikeBut.eq_of_shows {key : String} {value : Json} {node other : Node}
    (h : node.AlikeBut key other) (hchildren : other.children = node.children)
    (hnode : node.target? = some (.local key) → node.Shows value)
    (hother : other.target? = some (.local key) → other.Shows value) : other = node := by
  obtain ⟨hwidget, hinteraction⟩ :=
    h.same fun hkey => ⟨value, hnode hkey, hother (h.target.trans hkey)⟩
  obtain ⟨hid, hattributes, hcell, -, -⟩ := h
  cases node
  cases other
  simp only at hid hattributes hcell hwidget hinteraction hchildren
  subst hid hattributes hcell hwidget hinteraction hchildren
  rfl

mutual
theorem MatchesBut.eq_of_shows {key : String} {value : Json} {node other : Node}
    (h : MatchesBut key node other)
    (hnode : ∀ n ∈ node.preorder, n.target? = some (.local key) → n.Shows value)
    (hother : ∀ n ∈ other.preorder, n.target? = some (.local key) → n.Shows value) :
    other = node := by
  match h with
  | .node own children =>
    rw [preorder_eq] at hnode hother
    obtain ⟨hnode, hbelow⟩ := List.forall_mem_cons.mp hnode
    obtain ⟨hother, hothers⟩ := List.forall_mem_cons.mp hother
    exact own.eq_of_shows (children.eq_of_shows hbelow hothers) hnode hother

theorem AllMatchBut.eq_of_shows {key : String} {value : Json} {nodes others : List Node}
    (h : AllMatchBut key nodes others)
    (hnodes : ∀ n ∈ preorderAll nodes, n.target? = some (.local key) → n.Shows value)
    (hothers : ∀ n ∈ preorderAll others, n.target? = some (.local key) → n.Shows value) :
    others = nodes := by
  match h with
  | .nil => rfl
  | .cons head rest =>
    rw [preorderAll_cons, List.forall_mem_append] at hnodes hothers
    rw [head.eq_of_shows hnodes.1 hothers.1, rest.eq_of_shows hnodes.2 hothers.2]
end

lemma AllMatchBut.map {α : Type} {key : String} {f g : α → Node}
    (h : ∀ a, MatchesBut key (f a) (g a)) (items : List α) :
    AllMatchBut key (items.map f) (items.map g) := by
  induction items with
  | nil => exact .nil
  | cons item items ih => exact .cons (h item) ih

end Node

/-! ### Sessions and sites -/

/-- Whether two sessions show the same page but for the value that is kept under a key. -/
structure Session.AgreesBut (key : String) (session other : Session) : Prop where
  activeTab : other.activeTab = session.activeTab
  values : other.values = session.values
  locals : ∀ id, id ≠ key → other.locals.get? id = session.locals.get? id

/-- Whether two groups are the same, but for the value that is kept under a key. -/
structure RadioGroup.AgreesBut (key : String) (group other : RadioGroup) : Prop where
  target : other.target = group.target
  current : group.target ≠ .local key → other.current = group.current

structure Scope.AgreesBut (key : String) (scope other : Scope) : Prop where
  item : other.item = scope.item
  inPopupFooter : other.inPopupFooter = scope.inPopupFooter
  radioGroup : Option.Rel (RadioGroup.AgreesBut key) scope.radioGroup other.radioGroup

namespace Site

/-- The same component, under another scope and with other local values. -/
def under (site : Site) (scope : Scope) (locals : Entries Json) : Site :=
  { site with scope, locals }

variable {key : String} {site : Site} {scope : Scope} {locals : Entries Json}

/-- What a control writes elsewhere is not touched. -/
lemma controlValue_under (hlocals : ∀ id, id ≠ key → locals.get? id = site.locals.get? id)
    {field : Field} (hkey : site.target field ≠ .local key) :
    (site.under scope locals).controlValue field = site.controlValue field := by
  have htarget : (site.under scope locals).target field = site.target field := rfl
  simp only [controlValue]
  rw [htarget]
  cases hfield : site.target field with
  | state path => rfl
  | «local» id =>
    have hid : id ≠ key := fun heq => hkey (heq ▸ hfield)
    simp only [under, hlocals id hid]
    rfl

lemma click?_under (hscope : scope.inPopupFooter = site.scope.inPopupFooter) :
    (site.under scope locals).click? = site.click? := by
  simp only [click?]
  simp only [under, hscope]

/-! ### Controls -/

lemma alike_textField (hlocals : ∀ id, id ≠ key → locals.get? id = site.locals.get? id) :
    site.textField.AlikeBut key (site.under scope locals).textField := by
  refine ⟨rfl, rfl, rfl, rfl, fun hshown => ⟨?_, rfl⟩⟩
  have hvalue : ((site.under scope locals).controlValue .value).display
      = (site.controlValue .value).display := by
    by_cases hkey : site.target .value = .local key
    · obtain ⟨value, hsite, hunder⟩ := hshown (congrArg some hkey)
      exact hunder.trans hsite.symm
    · rw [controlValue_under hlocals hkey]
  simp only [textField, hvalue]
  rfl

lemma alike_toggle (hlocals : ∀ id, id ≠ key → locals.get? id = site.locals.get? id) :
    site.toggle.AlikeBut key (site.under scope locals).toggle := by
  refine ⟨rfl, rfl, rfl, rfl, fun hshown => ?_⟩
  have hon : ((site.under scope locals).controlValue .value).isTruthy
      = (site.controlValue .value).isTruthy := by
    by_cases hkey : site.target .value = .local key
    · obtain ⟨value, hsite, hunder⟩ := hshown (congrArg some hkey)
      exact hunder.trans hsite.symm
    · rw [controlValue_under hlocals hkey]
  simp only [toggle, hon]
  exact ⟨rfl, rfl⟩

lemma shows_picker {value : Json} (h : ¬ site.choices.isEmpty) :
    site.picker.Shows value
      ↔ Choice.indexOf? site.choices (site.controlValue .selected)
        = (site.choices.map Choice.value).findIdx? (· == value) := by
  have hinteraction : site.picker.interaction
      = some (.cyclePicker (site.target .selected) (site.choices.map Choice.value)
        (Choice.indexOf? site.choices (site.controlValue .selected))) := if_neg h
  simp only [Node.Shows]
  rw [hinteraction]
  rfl

lemma target?_picker :
    site.picker.target? = if site.choices.isEmpty then none else some (site.target .selected) := by
  show (if site.choices.isEmpty then none else some _).bind _ = _
  split <;> rfl

lemma alike_picker (hlocals : ∀ id, id ≠ key → locals.get? id = site.locals.get? id) :
    site.picker.AlikeBut key (site.under scope locals).picker := by
  refine ⟨rfl, rfl, rfl, by rw [target?_picker, target?_picker]; rfl, fun hshown => ?_⟩
  have hcurrent :
      Choice.indexOf? site.choices ((site.under scope locals).controlValue .selected)
        = Choice.indexOf? site.choices (site.controlValue .selected) := by
    by_cases hempty : site.choices.isEmpty
    · rw [List.isEmpty_iff.mp hempty]
      rfl
    · by_cases hkey : site.target .selected = .local key
      · obtain ⟨value, hsite, hunder⟩ := hshown (by rw [target?_picker, if_neg hempty, hkey])
        rw [shows_picker hempty] at hsite
        exact ((@shows_picker (site.under scope locals) value hempty).mp hunder).trans hsite.symm
      · rw [controlValue_under hlocals hkey]
  have hpicker : ∀ other : Site, other.picker
      = (Node.picker other.id (other.text? .label) other.choices (other.controlValue .selected)
        (other.target .selected)).withAttributes (other.attributes none) := fun _ => rfl
  have hchoices : (site.under scope locals).choices = site.choices := rfl
  rw [hpicker, hpicker, hchoices]
  simp only [Node.withAttributes, Node.picker, hcurrent]
  exact ⟨rfl, rfl⟩

/-- Whether a radio button is chosen. -/
def radioSelected (site : Site) : Bool :=
  match site.scope.radioGroup with
  | some group => group.current == site.value .value
  | none => (site.locals.get? site.id).any (· == site.value .value)

lemma radio_eq :
    site.radio =
      { id := site.id
        widget := .radio ((site.text? .content).getD (site.value .value).display) site.radioSelected
        attributes := site.attributes none
        interaction := some (.selectRadio site.radioTarget (site.value .value)) } := by
  simp only [radio, radioSelected, radioTarget]
  cases site.scope.radioGroup with
  | none => rfl
  | some group => rfl

lemma radioTarget_under (hscope : site.scope.AgreesBut key scope) :
    (site.under scope locals).radioTarget = site.radioTarget := by
  have hgroup := hscope.radioGroup
  simp only [radioTarget, under]
  generalize site.scope.radioGroup = first, scope.radioGroup = second at hgroup
  cases hgroup with
  | some hgroup => exact hgroup.target
  | none => rfl

lemma radioSelected_under (hscope : site.scope.AgreesBut key scope)
    (hlocals : ∀ id, id ≠ key → locals.get? id = site.locals.get? id)
    (hkey : site.radioTarget ≠ .local key) :
    (site.under scope locals).radioSelected = site.radioSelected := by
  have hgroup := hscope.radioGroup
  have hvalue : (site.under scope locals).value .value = site.value .value := rfl
  simp only [radioTarget] at hkey
  simp only [radioSelected]
  rw [hvalue]
  simp only [under]
  generalize site.scope.radioGroup = first, scope.radioGroup = second at hgroup hkey
  cases hgroup with
  | some hgroup =>
    dsimp only
    rw [hgroup.current hkey]
  | none =>
    dsimp only
    rw [hlocals site.id fun hid => hkey (hid ▸ rfl)]

lemma alike_radio (hscope : site.scope.AgreesBut key scope)
    (hlocals : ∀ id, id ≠ key → locals.get? id = site.locals.get? id) :
    site.radio.AlikeBut key (site.under scope locals).radio := by
  have htarget : (site.under scope locals).radioTarget = site.radioTarget :=
    radioTarget_under hscope
  rw [radio_eq, radio_eq, htarget]
  refine ⟨rfl, rfl, rfl, rfl, fun hshown => ⟨?_, rfl⟩⟩
  have hselected : (site.under scope locals).radioSelected = site.radioSelected := by
    by_cases hkey : site.radioTarget = .local key
    · obtain ⟨value, hsite, hunder⟩ := hshown (congrArg some hkey)
      exact hunder.trans hsite.symm
    · exact radioSelected_under hscope hlocals hkey
  rw [hselected]
  rfl

/-! ### Components -/

lemma alike_other (draw draw' : Draw) :
    (site.other draw).AlikeBut key ((site.under scope locals).other draw') := by
  have htype : (site.under scope locals).component.type = site.component.type := rfl
  simp only [other]
  rw [htype]
  split
  · exact .of_eq rfl rfl rfl rfl rfl
  · exact .of_eq rfl rfl rfl rfl rfl

/-- Under scopes and local values that agree, a component has nodes that are alike. -/
lemma alike_node (hscope : site.scope.AgreesBut key scope)
    (hlocals : ∀ id, id ≠ key → locals.get? id = site.locals.get? id) (draw draw' : Draw) :
    (site.node draw).AlikeBut key ((site.under scope locals).node draw') := by
  have hbody : (site.body draw).AlikeBut key ((site.under scope locals).body draw') := by
    have hform : (site.under scope locals).component.type.form = site.component.type.form := rfl
    simp only [body]
    rw [hform]
    cases site.component.type.form with
    | button => exact .of_eq rfl rfl rfl rfl (click?_under hscope.inPopupFooter)
    | fab => exact .of_eq rfl rfl rfl rfl (click?_under hscope.inPopupFooter)
    | collection =>
      refine .of_eq rfl rfl rfl ?_ rfl
      simp only [collection, Node.collection, List.length_mapIdx]
      rfl
    | textInput => exact alike_textField hlocals
    | picker => exact alike_picker hlocals
    | toggle => exact alike_toggle hlocals
    | radio => exact alike_radio hscope hlocals
    | generic => exact alike_other draw draw'
    | _ => exact .of_eq rfl rfl rfl rfl rfl
  exact ⟨hbody.id, hbody.attributes, rfl, hbody.target, hbody.same⟩

lemma handed_under (hscope : site.scope.AgreesBut key scope)
    (hlocals : ∀ id, id ≠ key → locals.get? id = site.locals.get? id) :
    site.handed.AgreesBut key (site.under scope locals).handed := by
  have hform : (site.under scope locals).component.type.form = site.component.type.form := rfl
  simp only [handed]
  rw [hform]
  split
  · exact ⟨hscope.item, hscope.inPopupFooter, .some ⟨rfl, fun hkey => controlValue_under hlocals hkey⟩⟩
  · exact hscope

/-! ### What is shown -/

variable {value : Json}

lemma controlValue_of_local (hlocal : site.locals.get? key = some value) {field : Field}
    (hkey : site.target field = .local key) : site.controlValue field = value := by
  simp only [controlValue]
  rw [hkey]
  simp only [hlocal, Option.getD_some]

/-- A control shows a value if that is the value of the field, the node or the group that it writes
to. -/
lemma shows_of_current {target : Target}
    (hfield : ∀ field, site.target field = target → site.controlValue field = value)
    (hlocal : ∀ key, target = .local key → site.locals.get? key = some value)
    (hgroup : ∀ group, site.scope.radioGroup = some group → group.target = target →
      group.current = value)
    {draw : Draw} (h : (site.node draw).target? = some target) : (site.node draw).Shows value := by
  rw [target?_node] at h
  have hbody : (site.body draw).Shows value := by
    simp only [body]
    cases hform : site.component.type.form with
    | textInput =>
      rw [hform] at h
      exact congrArg Json.display (hfield _ (Option.some_inj.mp h))
    | picker =>
      rw [hform] at h
      dsimp only at h
      split at h
      · cases h
      · next hempty =>
        rw [shows_picker hempty, hfield _ (Option.some_inj.mp h), List.findIdx?_map]
        rfl
    | toggle =>
      rw [hform] at h
      exact congrArg Json.isTruthy (hfield _ (Option.some_inj.mp h))
    | radio =>
      rw [hform] at h
      have htarget : site.radioTarget = target := Option.some_inj.mp h
      rw [radio_eq]
      show site.radioSelected = (value == site.value .value)
      simp only [radioTarget] at htarget
      simp only [radioSelected]
      cases hradio : site.scope.radioGroup with
      | none =>
        rw [hradio] at htarget
        simp only [hlocal _ htarget.symm, Option.any_some]
      | some group =>
        rw [hradio] at htarget
        simp only [hgroup group hradio htarget]
    | _ =>
      rw [hform] at h
      cases h
  exact hbody

/-- Once a value is kept, the controls that write there show it. -/
lemma shows_node (hlocal : site.locals.get? key = some value)
    (hgroup : ∀ group, site.scope.radioGroup = some group → group.target = .local key →
      group.current = value)
    {draw : Draw} (h : (site.node draw).target? = some (.local key)) :
    (site.node draw).Shows value := by
  refine shows_of_current (fun _ => controlValue_of_local hlocal) ?_ hgroup h
  rintro _ ⟨⟩
  exact hlocal

lemma current_handed (hlocal : site.locals.get? key = some value)
    (hgroup : ∀ group, site.scope.radioGroup = some group → group.target = .local key →
      group.current = value) :
    ∀ group, site.handed.radioGroup = some group → group.target = .local key →
      group.current = value := by
  intro group hhanded hkey
  simp only [handed] at hhanded
  split at hhanded
  · cases hhanded
    exact controlValue_of_local hlocal hkey
  · exact hgroup group hhanded hkey

end Site

/-! ### Drawings and pages -/

namespace Stage

variable {stage : Stage} {session other : Session} {key : String} {value : Json}

lemma site_eq_under (h : session.AgreesBut key other) {scope scope' : Scope}
    (hscope : scope.AgreesBut key scope') (component : Component) (id : String) :
    stage.site other scope' component id
      = (stage.site session scope component id).under scope' other.locals := by
  simp only [site, Site.under, context, h.values, hscope.item]

/-- Of a session, a drawing depends on the state and the local values only. -/
lemma draw_congr (hvalues : other.values = session.values) (hlocals : other.locals = session.locals)
    (depth : Nat) : stage.draw other depth = stage.draw session depth := by
  have hsite : stage.site other = stage.site session := by
    funext scope component id
    simp only [site, context, hvalues, hlocals]
  induction depth with
  | zero => rfl
  | succ depth ih =>
    funext scope content id
    simp only [draw, hsite, ih]

lemma matches_part {draw draw' : Draw}
    (hdraw : ∀ {scope scope' : Scope}, scope.AgreesBut key scope' → ∀ content id,
      Node.MatchesBut key (draw scope content id) (draw' scope' content id))
    {scope scope' : Scope} (hscope : scope.AgreesBut key scope') (part : Part) :
    Node.MatchesBut key (part.draw draw scope) (part.draw draw' scope') := by
  cases part with
  | child content id => exact hdraw hscope content id
  | framed frame item content id =>
    have hitem : item.or scope'.item = item.or scope.item := by rw [hscope.item]
    have hinner := hdraw (⟨hitem, hscope.inPopupFooter, hscope.radioGroup⟩ :
      Scope.AgreesBut key { scope with item := item.or scope.item }
        { scope' with item := item.or scope'.item }) content id
    exact .node (.of_eq rfl rfl rfl rfl rfl) (.cons hinner .nil)
  | plain node => exact .refl key node

/-- Drawings of sessions that agree but for a local value match but for what is shown of it. -/
theorem matches_draw (h : session.AgreesBut key other) {depth : Nat} {scope scope' : Scope}
    (hscope : scope.AgreesBut key scope') (content : Child) (id : String) :
    Node.MatchesBut key (stage.draw session depth scope content id)
      (stage.draw other depth scope' content id) := by
  induction depth generalizing scope scope' content id with
  | zero => exact .refl key _
  | succ depth ih =>
    have hnode : ∀ component, Node.MatchesBut key
        ((stage.site session scope component id).node (stage.draw session depth))
        ((stage.site other scope' component id).node (stage.draw other depth)) := by
      intro component
      let site := stage.site session scope component id
      have hhanded : site.handed.AgreesBut key (site.under scope' other.locals).handed :=
        Site.handed_under hscope h.locals
      rw [site_eq_under h hscope]
      refine .node (Site.alike_node hscope h.locals _ _) ?_
      rw [Site.node_eq, Site.node_eq]
      exact Node.AllMatchBut.map (matches_part ih hhanded) site.parts
    cases content with
    | «inline» component => exact hnode component
    | reference reference =>
      simp only [draw]
      split
      · exact hnode _
      · exact .refl key _

/-- Once a value is kept, whatever is drawn to write there shows it. -/
theorem shows_draw (hlocal : session.locals.get? key = some value) {depth : Nat} {scope : Scope}
    (hgroup : ∀ group, scope.radioGroup = some group → group.target = .local key →
      group.current = value)
    {content : Child} {id : String} {n : Node}
    (hn : n ∈ (stage.draw session depth scope content id).preorder)
    (hkey : n.target? = some (.local key)) : n.Shows value := by
  induction depth generalizing scope content id with
  | zero =>
    rw [Node.eq_of_mem_leaf rfl hn] at hkey
    cases hkey
  | succ depth ih =>
    rcases stage.draw_cases session depth scope content id with
      ⟨component, hdraw⟩ | ⟨reference, hdraw⟩
    · rw [hdraw] at hn
      rcases Site.mem_preorder_node _ _ hn (Node.interaction_ne_none hkey) with
        rfl | ⟨item, inner, innerId, -, hn⟩
      · exact Site.shows_node hlocal hgroup hkey
      · refine ih ?_ hn
        exact @Site.current_handed key (stage.site session scope component id) value hlocal hgroup
    · rw [hdraw] at hn
      rw [Node.eq_of_mem_leaf rfl hn] at hkey
      cases hkey

/-! ### Pages -/

lemma page_congr (hactiveTab : other.activeTab = session.activeTab)
    (hvalues : other.values = session.values) (hlocals : other.locals = session.locals) :
    stage.page other = stage.page session := by
  simp only [page, activePage?, hactiveTab, draw_congr hvalues hlocals]

/-- Pages of sessions that agree but for a local value match but for what is shown of it. -/
theorem matches_page (h : session.AgreesBut key other) :
    Node.MatchesBut key (stage.page session) (stage.page other) := by
  have hpage : stage.activePage? other = stage.activePage? session := by
    simp only [activePage?]
    rw [h.activeTab]
  unfold page
  rw [hpage]
  dsimp only
  split
  · next page _ =>
    refine .node (.of_eq rfl rfl rfl rfl rfl) ?_
    dsimp only
    cases page.layout with
    | none => exact .nil
    | some layout =>
      exact .cons (matches_draw h ⟨rfl, rfl, .none⟩ layout (screenId ++ "/page" ++ "/0")) .nil
  · exact .refl key _

lemma shows_page (hlocal : session.locals.get? key = some value) {n : Node}
    (hn : n ∈ (stage.page session).preorder) (hkey : n.target? = some (.local key)) :
    n.Shows value := by
  obtain ⟨depth, scope, content, id, hscope, -, hn⟩ := drawnIn_page hn hkey
  refine shows_draw hlocal (fun group hgroup => ?_) hn hkey
  rw [hscope] at hgroup
  cases hgroup

/-- Writing a local value leaves a page as it is if and only if the page shows that value already
wherever it shows a value that is kept under the key. -/
theorem page_eq_iff (h : session.AgreesBut key other) (hlocal : other.locals.get? key = some value) :
    stage.page other = stage.page session
      ↔ ∀ n ∈ (stage.page session).preorder, n.target? = some (.local key) → n.Shows value := by
  constructor
  · intro heq n hn hkey
    rw [← heq] at hn
    exact shows_page hlocal hn hkey
  · intro hshows
    exact (matches_page h).eq_of_shows hshows fun n hn hkey => shows_page hlocal hn hkey

end Stage

end Wireframe
