import Wireframe.Proofs.Nesting
import Mathlib.Data.List.Forall2
import Mathlib.Data.Option.Basic

/-!
# Drawing what is declared instead of written out

A component that is written out at some places is drawn there as if it were declared under a name and the
places referred to it. The drawings are the same node by node, but that a mark of too deep nesting gives
the name where it gave the type (`Stage.sameBut_draw`).
-/

namespace Wireframe

/-! ### Trees -/

/-- Whether trees are the same, but for marks of too deep nesting that give a name instead of a type. -/
inductive Node.SameBut (type name : String) : Node → Node → Prop where
  | node {node : Node} {children : List Node}
      (h : List.Forall₂ (SameBut type name) node.children children) :
      SameBut type name node { node with children }
  | tooDeep (id : String) :
      SameBut type name (Node.missing id type .tooDeep) (Node.missing id name .tooDeep)

namespace Node

variable {type name : String}

lemma SameBut.refl (node : Node) : node.SameBut type name node := by
  induction node using Node.induct with
  | step node ih =>
    cases node
    exact .node (List.forall₂_same.mpr ih)

lemma eq_of_forall₂ {α : Type} {r : α → α → Prop} {xs ys : List α} (h : List.Forall₂ r xs ys)
    (heq : ∀ x ∈ xs, ∀ y, r x y → y = x) : ys = xs := by
  induction h with
  | nil => rfl
  | cons hr _ ih =>
    obtain ⟨hx, hxs⟩ := List.forall_mem_cons.mp heq
    rw [hx _ hr, ih hxs]

/-- Without a mark of too deep nesting the trees are the same. -/
lemma SameBut.eq {node other : Node} (h : node.SameBut type name other)
    (hdeep : ∀ n ∈ node.preorder, ¬ n.isTooDeep) : other = node := by
  induction node using Node.induct generalizing other with
  | step node ih =>
    cases h with
    | node hchildren =>
      have hsame := eq_of_forall₂ hchildren fun child hchild child' hsame =>
        ih child hchild hsame fun n hn =>
          hdeep n (mem_preorder.mpr (.inr ⟨child, hchild, hn⟩))
      cases node
      rw [hsame]
    | tooDeep id => exact absurd rfl (hdeep _ (mem_preorder_self _))

end Node

/-! ### Components -/

/-- A component without what it contains. -/
def Component.bare (component : Component) : Component :=
  { component with layout := none, children := [], slots := {} }

/-- Whether children are the same, but that on the one side a component is written out at some places,
and on the other declared under a name and referred to there. -/
inductive Child.Extracted (name : String) (declared : Component) : Child → Child → Prop where
  | reference {reference : Reference} (h : reference.id ≠ name) :
      Extracted name declared (.reference reference) (.reference reference)
  | inline {component other : Component} (bare : other.bare = component.bare)
      (layout : List.Forall₂ (Extracted name declared) component.layoutChildren other.layoutChildren)
      (children : List.Forall₂ (Extracted name declared) component.children other.children)
      (slots : ∀ slot,
        Option.Rel (Extracted name declared) (component.slots.get? slot) (other.slots.get? slot)) :
      Extracted name declared (.inline component) (.inline other)
  | here : Extracted name declared (.inline declared) (.reference { id := name })

/-- Whether components are the same, but for what is extracted from them. -/
structure Component.Extracted (component : Component) (name : String) (declared other : Component) :
    Prop where
  bare : other.bare = component.bare
  layout : List.Forall₂ (Child.Extracted name declared)
    component.layoutChildren other.layoutChildren
  children : List.Forall₂ (Child.Extracted name declared) component.children other.children
  slots : ∀ slot, Option.Rel (Child.Extracted name declared)
    (component.slots.get? slot) (other.slots.get? slot)

namespace Component

variable {name : String} {declared component other : Component}

namespace Extracted

lemma inline (h : component.Extracted name declared other) :
    Child.Extracted name declared (.inline component) (.inline other) :=
  .inline h.bare h.layout h.children h.slots

lemma allChildren (h : component.Extracted name declared other) :
    List.Forall₂ (Child.Extracted name declared) component.allChildren other.allChildren :=
  List.rel_append h.layout h.children

lemma type (h : component.Extracted name declared other) : other.type = component.type :=
  (congrArg Component.type h.bare :)

lemma style (h : component.Extracted name declared other) : other.style = component.style :=
  (congrArg Component.style h.bare :)

lemma interactions (h : component.Extracted name declared other) :
    other.interactions = component.interactions :=
  (congrArg Component.interactions h.bare :)

/-- What a reference overrides does not matter for what is extracted. -/
lemma overridden (h : component.Extracted name declared other) (reference : Reference) :
    (component.overridden reference).Extracted name declared (other.overridden reference) where
  bare := (congrArg (Component.overridden · reference) h.bare :)
  layout := h.layout
  children := h.children
  slots := h.slots

end Extracted

/-- A reference without overrides is the component itself. -/
lemma overridden_self (component : Component) (id : String) :
    component.overridden { id } = component := by
  obtain ⟨type, props, style, layout, children, slots, interactions, placement⟩ := component
  rfl

end Component

/-! ### Parts -/

/-- Whether parts are the same, but that what is drawn in them is related. -/
inductive Part.Rel (r : Child → Child → Prop) : Part → Part → Prop where
  | child {content other : Child} (h : r content other) (id : String) :
      Rel r (.child content id) (.child other id)
  | framed (frame : Node) (item : Option Json) {content other : Child} (h : r content other)
      (id : String) : Rel r (.framed frame item content id) (.framed frame item other id)
  | plain (node : Node) : Rel r (.plain node) (.plain node)

lemma forall₂_mapIdx {α β γ δ : Type} {r : α → β → Prop} {s : γ → δ → Prop} {xs : List α}
    {ys : List β} (h : List.Forall₂ r xs ys) {f : Nat → α → γ} {g : Nat → β → δ}
    (hfg : ∀ i x y, r x y → s (f i x) (g i y)) : List.Forall₂ s (xs.mapIdx f) (ys.mapIdx g) := by
  induction h generalizing f g with
  | nil => exact .nil
  | cons hr _ ih =>
    rw [List.mapIdx_cons, List.mapIdx_cons]
    exact .cons (hfg 0 _ _ hr) (ih fun i x y => hfg (i + 1) x y)

lemma rel_cases {α β : Type} {r : α → β → Prop} {a : Option α} {b : Option β}
    (h : Option.Rel r a b) : (a = none ∧ b = none) ∨ ∃ x y, a = some x ∧ b = some y ∧ r x y := by
  cases h with
  | some hr => exact .inr ⟨_, _, rfl, rfl, hr⟩
  | none => exact .inl ⟨rfl, rfl⟩

lemma rel_or {α β : Type} {r : α → β → Prop} {a c : Option α} {b d : Option β}
    (h : Option.Rel r a b) (h' : Option.Rel r c d) : Option.Rel r (a.or c) (b.or d) := by
  cases h with
  | some hr => exact .some hr
  | none => exact h'

lemma rel_head? {α β : Type} {r : α → β → Prop} {xs : List α} {ys : List β}
    (h : List.Forall₂ r xs ys) : Option.Rel r xs.head? ys.head? := by
  cases h with
  | nil => exact .none
  | cons hr _ => exact .some hr

lemma forall₂_toList {α β : Type} {r : α → β → Prop} {a : Option α} {b : Option β}
    (h : Option.Rel r a b) : List.Forall₂ r a.toList b.toList := by
  cases h with
  | some hr => exact .cons hr .nil
  | none => exact .nil

lemma rel_map {α β γ δ : Type} {r : α → β → Prop} {s : γ → δ → Prop} {a : Option α} {b : Option β}
    (h : Option.Rel r a b) {f : α → γ} {g : β → δ} (hfg : ∀ x y, r x y → s (f x) (g y)) :
    Option.Rel s (a.map f) (b.map g) := by
  cases h with
  | some hr => exact .some (hfg _ _ hr)
  | none => exact .none

namespace Site

variable (site : Site)

/-- The site with another component. -/
def withComponent (component : Component) : Site :=
  { site with component }

/-- What a component looks like does not depend on what it contains. -/
lemma face_bare : (site.withComponent site.component.bare).face = site.face := by
  have htype : (site.withComponent site.component.bare).component.type = site.component.type := rfl
  simp only [face, node, body, htype]
  cases site.component.type.form with
  | generic =>
    simp only [other, htype]
    split <;> rfl
  | collection =>
    simp only [collection, Node.collection, List.length_mapIdx]
    rfl
  | _ => rfl

variable {site} {name : String} {declared component : Component}

lemma face_extracted (h : site.component.Extracted name declared component) :
    (site.withComponent component).face = site.face := by
  rw [← site.face_bare, ← (site.withComponent component).face_bare]
  exact congrArg (fun bare => (site.withComponent bare).face) h.bare

lemma handed_extracted (h : site.component.Extracted name declared component) :
    (site.withComponent component).handed = site.handed :=
  (congrArg (fun bare => (site.withComponent bare).handed) h.bare :)

lemma value_extracted (h : site.component.Extracted name declared component) (field : Field) :
    (site.withComponent component).value field = site.value field :=
  (congrArg (fun bare => (site.withComponent bare).value field) h.bare :)

lemma text?_extracted (h : site.component.Extracted name declared component) (field : Field) :
    (site.withComponent component).text? field = site.text? field :=
  (congrArg (fun bare => (site.withComponent bare).text? field) h.bare :)

/-! ### Parts of a component -/

lemma childParts_extracted (h : site.component.Extracted name declared component) :
    List.Forall₂ (Part.Rel (Child.Extracted name declared)) site.childParts
      (site.withComponent component).childParts :=
  forall₂_mapIdx h.allChildren fun _ _ _ hr => .child hr _

lemma slotParts_extracted (h : site.component.Extracted name declared component) (slot : Slot) :
    List.Forall₂ (Part.Rel (Child.Extracted name declared)) (site.slotParts slot)
      ((site.withComponent component).slotParts slot) :=
  forall₂_toList (rel_map (h.slots slot) fun _ _ hr => .child hr _)

lemma itemPart_extracted (h : site.component.Extracted name declared component) (index : Nat)
    (item : Json) : Part.Rel (Child.Extracted name declared) (site.itemPart index item)
      ((site.withComponent component).itemPart index item) := by
  have htemplate : Option.Rel (Child.Extracted name declared) site.template?
      (site.withComponent component).template? :=
    rel_or (rel_or (h.slots .template) (h.slots .content)) (rel_head? h.allChildren)
  simp only [itemPart]
  rcases rel_cases htemplate with ⟨hnone, hnone'⟩ | ⟨template, template', hsome, hsome', hr⟩
  · rw [hnone, hnone']
    exact .plain _
  · rw [hsome, hsome']
    exact .framed _ _ hr _

lemma listParts_extracted (h : site.component.Extracted name declared component) :
    List.Forall₂ (Part.Rel (Child.Extracted name declared)) site.listParts
      (site.withComponent component).listParts := by
  have hframe : ∀ slot, List.Forall₂ (Part.Rel (Child.Extracted name declared))
      (if site.component.type ≠ .dataTemplate then site.slotParts slot else [])
      (if component.type ≠ .dataTemplate then (site.withComponent component).slotParts slot
        else []) := by
    intro slot
    rw [h.type]
    split
    · exact slotParts_extracted h slot
    · exact .nil
  simp only [listParts, value_extracted h]
  refine List.rel_append (List.rel_append (hframe .header) ?_) (hframe .footer)
  split
  · exact forall₂_toList (rel_map (h.slots .emptyView) fun _ _ hr => .framed _ _ hr _)
  · exact forall₂_mapIdx (List.forall₂_same.mpr fun item _ => rfl) fun i item _ heq =>
      heq ▸ itemPart_extracted h i item

/-- Part by part, a component is drawn alike. -/
lemma parts_extracted (h : site.component.Extracted name declared component) :
    List.Forall₂ (Part.Rel (Child.Extracted name declared)) site.parts
      (site.withComponent component).parts := by
  have htype : (site.withComponent component).component.type = site.component.type := h.type
  simp only [parts, htype]
  cases site.component.type.form with
  | border => exact List.rel_append (slotParts_extracted h .content) (childParts_extracted h)
  | stack => exact childParts_extracted h
  | grid => exact childParts_extracted h
  | flex => exact childParts_extracted h
  | radioGroup => exact childParts_extracted h
  | collection => exact listParts_extracted h
  | swipe =>
    exact forall₂_toList (rel_map (rel_or (h.slots .content) (rel_head? h.allChildren))
      fun _ _ hr => .child hr _)
  | generic =>
    dsimp only
    split
    · exact childParts_extracted h
    · exact .nil
  | _ => exact .nil

end Site

/-! ### Drawings -/

namespace Site

variable {site : Site} {name type : String} {declared component : Component} {draw draw' : Draw}

lemma sameBut_part {r : Child → Child → Prop} {scope : Scope} {part other : Part}
    (h : part.Rel r other)
    (hdraw : ∀ scope content content' id, r content content' →
      (draw scope content id).SameBut type name (draw' scope content' id)) :
    (part.draw draw scope).SameBut type name (other.draw draw' scope) := by
  cases h with
  | child hr id => exact hdraw _ _ _ id hr
  | framed frame item hr id => exact .node (.cons (hdraw _ _ _ id hr) .nil)
  | plain node => exact .refl node

variable (h : site.component.Extracted name declared component)
  (hdraw : ∀ scope content content' id, Child.Extracted name declared content content' →
    (draw scope content id).SameBut type name (draw' scope content' id))
include h hdraw

lemma rel_slot? (slot : Slot) : Option.Rel (Node.SameBut type name) (site.slot? draw slot)
    ((site.withComponent component).slot? draw' slot) :=
  rel_map (h.slots slot) fun _ _ hcontent => hdraw _ _ _ _ hcontent

lemma forall₂_children (scope : Scope) : List.Forall₂ (Node.SameBut type name)
    (site.children draw scope) ((site.withComponent component).children draw' scope) :=
  forall₂_mapIdx h.allChildren fun _ _ _ hcontent => hdraw _ _ _ _ hcontent

/-- A component is drawn alike if what is below it is. -/
lemma sameBut_node : (site.node draw).SameBut type name ((site.withComponent component).node draw') := by
  rw [node_eq, node_eq, face_extracted h, handed_extracted h]
  refine @Node.SameBut.node _ _ { site.face with children := _ } _ ?_
  rw [List.forall₂_map_left_iff, List.forall₂_map_right_iff]
  exact (parts_extracted h).imp fun _ _ hpart => sameBut_part hpart hdraw

end Site

namespace Stage

/-- Whether stages are the same for drawing, but for what is extracted from the components of the one and
declared by the other. -/
structure Extracted (stage : Stage) (name : String) (declared : Component) (other : Stage) : Prop where
  context : other.context = stage.context
  styles : other.styles = stage.styles
  found : ∀ id, id ≠ name → Option.Rel (fun component => component.Extracted name declared)
    (stage.document.component? id) (other.document.component? id)
  named : other.document.component? name = some declared
  itself : declared.Extracted name declared declared

variable {stage other : Stage} {name : String} {declared : Component} {session : Session}

lemma site_extracted (h : stage.Extracted name declared other) (scope : Scope)
    (component component' : Component) (id : String) :
    other.site session scope component' id
      = (stage.site session scope component id).withComponent component' := by
  simp only [site, h.context, h.styles]
  rfl

/-- What is extracted is drawn where it is referred to, as it was where it was written out. -/
theorem sameBut_draw (h : stage.Extracted name declared other) {depth : Nat} {scope : Scope}
    {content content' : Child} {id : String}
    (hcontent : Child.Extracted name declared content content') :
    (stage.draw session depth scope content id).SameBut declared.type.name name
      (other.draw session depth scope content' id) := by
  induction depth generalizing scope content content' id with
  | zero =>
    cases hcontent with
    | reference hne => exact .refl _
    | «inline» bare layout children slots =>
      have htype := (Component.Extracted.mk bare layout children slots).type
      simp only [draw, Child.name, htype]
      exact .refl _
    | here => exact .tooDeep id
  | succ depth ih =>
    have hnode : ∀ {component component'}, component.Extracted name declared component' →
        ((stage.site session scope component id).node (stage.draw session depth)).SameBut
          declared.type.name name
          ((other.site session scope component' id).node (other.draw session depth)) := by
      intro component component' hcomponent
      rw [site_extracted h scope component component' id]
      exact Site.sameBut_node hcomponent fun _ _ _ _ hinner => ih hinner
    cases hcontent with
    | @reference reference hne =>
      simp only [draw]
      rcases rel_cases (h.found reference.id hne) with
        ⟨hnone, hnone'⟩ | ⟨component, component', hfound, hfound', hcomponent⟩
      · rw [hnone, hnone']
        exact .refl _
      · rw [hfound, hfound']
        exact hnode (hcomponent.overridden reference)
    | «inline» bare layout children slots => exact hnode ⟨bare, layout, children, slots⟩
    | here =>
      simp only [draw, h.named, Component.overridden_self]
      exact hnode h.itself

end Stage

end Wireframe
