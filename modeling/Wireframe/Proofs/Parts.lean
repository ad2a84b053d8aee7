import Wireframe.Proofs.Traversal
import Wireframe.Screen.Basic

/-!
# What is drawn below a component

The node of a component is its face, which does not depend on how children are drawn, over its parts:
children that are drawn as they are, children in the frames of a list, and nodes complete by
themselves (`Site.node_eq`). A proof about drawings goes through the parts and looks at the faces.
-/

namespace Wireframe

/-- Something that is drawn below a component. -/
inductive Part where
  | child (child : Child) (id : String)
  /-- A child in a frame of a list, which may bring the current item. -/
  | framed (frame : Node) (item : Option Json) (child : Child) (id : String)
  /-- A node that needs no child. -/
  | plain (node : Node)

def Part.draw (draw : Draw) (scope : Scope) : Part → Node
  | child content id => draw scope content id
  | framed frame item content id =>
    { frame with children := [draw { scope with item := item.or scope.item } content id] }
  | plain node => node

/-- Whether a child is what stands in a slot of the component or one of its children. -/
def Component.Contains (component : Component) (child : Child) : Prop :=
  child ∈ component.allChildren ∨ ∃ slot, component.slots.get? slot = some child

/-- Whether a node is what a list puts around its items, or around what stands in for them. -/
def Node.IsFrame (node : Node) : Prop :=
  node.interaction = none
    ∧ (node.widget = .emptyView ∨ ∃ index, node.widget = .collectionItem index)

/-- The parts that a component can have. -/
inductive Part.Of (component : Component) : Part → Prop where
  | child {content : Child} {id : String} (h : component.Contains content) :
      Part.Of component (.child content id)
  | framed {frame : Node} {item : Option Json} {content : Child} {id : String}
      (hframe : frame.IsFrame) (h : component.Contains content) :
      Part.Of component (.framed frame item content id)
  /-- An item that is drawn as a label. -/
  | labelled (id text : String) (index : Nat) :
      Part.Of component
        (.plain
          { id
            widget := .collectionItem index
            children := [Node.label (id ++ "/0") text none] })

/-- What is found in a part is a frame or a label, or drawn for a child. -/
lemma Part.Of.mem_preorder_draw {component : Component} {draw : Draw} {scope : Scope} {part : Part}
    {n : Node} (hpart : part.Of component) (h : n ∈ (part.draw draw scope).preorder) :
    n.IsFrame ∨ (∃ id text, n = Node.label id text none)
      ∨ ∃ item content id, component.Contains content
        ∧ draw { scope with item } content id ∈ (part.draw draw scope).preorder
        ∧ n ∈ (draw { scope with item } content id).preorder := by
  cases hpart with
  | @child content id hcontent =>
    exact .inr (.inr ⟨scope.item, content, id, hcontent, Node.mem_preorder_self _, h⟩)
  | @framed frame item content id hframe hcontent =>
    rcases Node.mem_preorder.mp h with rfl | ⟨node, hnode, hn⟩
    · exact .inl hframe
    · rw [List.mem_singleton.mp hnode] at hn
      refine .inr (.inr ⟨item.or scope.item, content, id, hcontent, ?_, hn⟩)
      exact Node.mem_preorder.mpr (.inr ⟨_, List.mem_singleton_self _, Node.mem_preorder_self _⟩)
  | labelled id text index =>
    rcases Node.mem_preorder.mp h with rfl | ⟨node, hnode, hn⟩
    · exact .inl ⟨rfl, .inr ⟨index, rfl⟩⟩
    · rw [List.mem_singleton.mp hnode] at hn
      exact .inr (.inl ⟨_, _, Node.eq_of_mem_leaf rfl hn⟩)

namespace Site

variable (site : Site)

/-- What the component hands to the nodes below it. -/
def handed : Scope :=
  if site.component.type.form = .radioGroup then
    { site.scope with
      radioGroup := some { target := site.target .value, current := site.controlValue .value } }
  else site.scope

/-! ### Parts -/

def childParts : List Part :=
  site.component.allChildren.mapIdx fun i child => .child child (site.partId (Nat.repr i))

def slotParts (slot : Slot) : List Part :=
  ((site.component.slots.get? slot).map fun child =>
    Part.child child (site.partId slot.name)).toList

def itemPart (index : Nat) (item : Json) : Part :=
  let id := site.partId (Nat.repr index)
  match site.template? with
  | some template => .framed { id, widget := .collectionItem index } (some item) template (id ++ "/0")
  | none =>
    .plain
      { id
        widget := .collectionItem index
        children := [Node.label (id ++ "/0") item.display none] }

def emptyParts : List Part :=
  (site.component.slots.emptyView.map fun child =>
    Part.framed { id := site.partId "empty", widget := .emptyView } none child
      (site.partId "empty/0")).toList

/-- The items of a list; a value that is no array has none. -/
def items : List Json :=
  (site.value .items).items?.getD []

def listParts : List Part :=
  let items := (site.value .items).items?.getD []
  let framed := site.component.type ≠ .dataTemplate
  (if framed then site.slotParts .header else [])
    ++ (if items.isEmpty then site.emptyParts else items.mapIdx site.itemPart)
    ++ (if framed then site.slotParts .footer else [])

/-- The parts of a component in the order in which they are drawn. -/
def parts : List Part :=
  match site.component.type.form with
  | .border => site.slotParts .content ++ site.childParts
  | .stack => site.childParts
  | .grid => site.childParts
  | .flex => site.childParts
  | .radioGroup => site.childParts
  | .collection => site.listParts
  | .swipe =>
    ((site.component.slots.content.or site.component.allChildren.head?).map fun child =>
      Part.child child (site.partId "content")).toList
  | .generic => if site.component.type = .contentPage then site.childParts else []
  | _ => []

variable (draw : Draw) (scope : Scope)

lemma map_mapIdx {α : Type} (f : Nat → α → Part) (items : List α) :
    (items.mapIdx f).map (Part.draw draw scope)
      = items.mapIdx fun i item => (f i item).draw draw scope := by
  simp only [List.mapIdx_eq_zipIdx_map, List.map_map]
  rfl

lemma map_childParts : site.childParts.map (Part.draw draw scope) = site.children draw scope :=
  map_mapIdx draw scope _ _

lemma map_slotParts (slot : Slot) :
    (site.slotParts slot).map (Part.draw draw site.scope) = (site.slot? draw slot).toList := by
  simp only [slotParts, slot?]
  cases site.component.slots.get? slot with
  | none => rfl
  | some child => rfl

lemma draw_itemPart (index : Nat) (item : Json) :
    (site.itemPart index item).draw draw site.scope = site.item draw index item := by
  simp only [itemPart, Site.item, itemContent]
  cases site.template? with
  | none => rfl
  | some template => rfl

lemma map_emptyParts :
    site.emptyParts.map (Part.draw draw site.scope) = (site.emptyView? draw).toList := by
  simp only [emptyParts, emptyView?]
  cases site.component.slots.emptyView with
  | none => rfl
  | some child => rfl

lemma map_frameParts (framed : Prop) [Decidable framed] (slot : Slot) :
    (if framed then site.slotParts slot else []).map (Part.draw draw site.scope)
      = (if framed then site.slot? draw slot else none).toList := by
  split
  · exact site.map_slotParts draw slot
  · rfl

lemma map_itemParts (items : List Json) :
    (if items.isEmpty then site.emptyParts else items.mapIdx site.itemPart).map
        (Part.draw draw site.scope)
      = if (items.mapIdx (site.item draw)).isEmpty then (site.emptyView? draw).toList
        else items.mapIdx (site.item draw) := by
  cases items with
  | nil => exact site.map_emptyParts draw
  | cons item items =>
    have hdraw : (fun i item => (site.itemPart i item).draw draw site.scope) = site.item draw :=
      funext fun i => funext fun item => site.draw_itemPart draw i item
    simp only [List.isEmpty_cons, Bool.false_eq_true, if_false, map_mapIdx, hdraw]
    simp

lemma map_listParts :
    site.listParts.map (Part.draw draw site.scope) = (site.collection draw).children := by
  simp only [listParts, List.map_append, map_frameParts, map_itemParts]
  rfl

lemma map_otherParts :
    (if site.component.type = .contentPage then site.childParts else []).map
        (Part.draw draw site.scope)
      = (site.other draw).children := by
  simp only [other]
  by_cases h : site.component.type = .contentPage
  · simp only [h, if_true, map_childParts]
  · rw [if_neg h]
    split
    · next htype => exact absurd htype h
    · rfl

lemma map_swipeParts :
    ((site.component.slots.content.or site.component.allChildren.head?).map fun child =>
        Part.child child (site.partId "content")).toList.map (Part.draw draw site.scope)
      = (site.swipe draw).children := by
  simp only [swipe]
  cases site.component.slots.content.or site.component.allChildren.head? with
  | none => rfl
  | some child => rfl

lemma children_body :
    (site.body draw).children = site.parts.map (Part.draw draw site.handed) := by
  have hchildren := fun scope => (site.map_childParts draw scope).symm
  simp only [body, parts, handed]
  cases site.component.type.form with
  | border =>
    rw [List.map_append]
    exact congrArg₂ (· ++ ·) (site.map_slotParts draw .content).symm (hchildren _)
  | stack => exact hchildren _
  | grid => exact hchildren _
  | flex => exact hchildren _
  | radioGroup => exact hchildren _
  | collection => exact (site.map_listParts draw).symm
  | swipe => exact (site.map_swipeParts draw).symm
  | generic => exact (site.map_otherParts draw).symm
  | _ => rfl

/-! ### Faces -/

/-- The node of a component without what is below it. -/
def face : Node :=
  { site.node (fun _ _ id => { id, widget := .overlay }) with children := [] }

lemma face_eq : { site.node draw with children := [] } = site.face := by
  simp only [face, node, body]
  cases site.component.type.form with
  | generic =>
    simp only [other]
    split <;> rfl
  | collection => simp only [collection, Node.collection, List.length_mapIdx]
  | _ => rfl

/-- The node of a component is its face over its parts. -/
theorem node_eq :
    site.node draw = { site.face with children := site.parts.map (Part.draw draw site.handed) } := by
  rw [← site.face_eq draw, ← site.children_body draw]
  rfl

@[simp] lemma id_face : site.face.id = site.id := by
  simp only [face, node, body]
  cases site.component.type.form with
  | generic =>
    simp only [other]
    split <;> rfl
  | _ => rfl

@[simp] lemma id_node : (site.node draw).id = site.id := by
  rw [node_eq]
  exact site.id_face

/-! ### What is found below -/

lemma contains_template {template : Child} (h : site.template? = some template) :
    site.component.Contains template := by
  rcases Option.or_eq_some_iff.mp h with hslot | ⟨-, hchild⟩
  · rcases Option.or_eq_some_iff.mp hslot with htemplate | ⟨-, hcontent⟩
    · exact .inr ⟨.template, htemplate⟩
    · exact .inr ⟨.content, hcontent⟩
  · exact .inl (List.mem_of_head? hchild)

lemma of_childParts : ∀ part ∈ site.childParts, part.Of site.component := by
  intro part hpart
  obtain ⟨i, hi, rfl⟩ := List.mem_mapIdx.mp hpart
  exact .child (.inl (List.getElem_mem hi))

lemma of_slotParts (slot : Slot) : ∀ part ∈ site.slotParts slot, part.Of site.component := by
  intro part hpart
  obtain ⟨child, hchild, rfl⟩ := Option.map_eq_some_iff.mp (Option.mem_toList.mp hpart)
  exact .child (.inr ⟨slot, hchild⟩)

lemma of_itemPart (index : Nat) (item : Json) : (site.itemPart index item).Of site.component := by
  simp only [itemPart]
  split
  · next template htemplate =>
    exact .framed ⟨rfl, .inr ⟨index, rfl⟩⟩ (site.contains_template htemplate)
  · exact .labelled _ _ index

lemma of_emptyParts : ∀ part ∈ site.emptyParts, part.Of site.component := by
  intro part hpart
  obtain ⟨child, hchild, rfl⟩ := Option.map_eq_some_iff.mp (Option.mem_toList.mp hpart)
  exact .framed ⟨rfl, .inl rfl⟩ (.inr ⟨.emptyView, hchild⟩)

lemma of_listParts : ∀ part ∈ site.listParts, part.Of site.component := by
  have hframe : ∀ (framed : Prop) [Decidable framed] (slot : Slot),
      ∀ part ∈ (if framed then site.slotParts slot else []), part.Of site.component := by
    intro framed _ slot part hpart
    split at hpart
    · exact site.of_slotParts slot part hpart
    · cases hpart
  intro part hpart
  simp only [listParts] at hpart
  rcases List.mem_append.mp hpart with hpart | hfooter
  · rcases List.mem_append.mp hpart with hheader | hitem
    · exact hframe _ _ part hheader
    · split at hitem
      · exact site.of_emptyParts part hitem
      · obtain ⟨i, hi, rfl⟩ := List.mem_mapIdx.mp hitem
        exact site.of_itemPart i _
  · exact hframe _ _ part hfooter

lemma of_parts : ∀ part ∈ site.parts, part.Of site.component := by
  intro part hpart
  simp only [parts] at hpart
  split at hpart
  · rcases List.mem_append.mp hpart with hslot | hchild
    · exact site.of_slotParts .content part hslot
    · exact site.of_childParts part hchild
  · exact site.of_childParts part hpart
  · exact site.of_childParts part hpart
  · exact site.of_childParts part hpart
  · exact site.of_childParts part hpart
  · exact site.of_listParts part hpart
  · obtain ⟨child, hchild, rfl⟩ := Option.map_eq_some_iff.mp (Option.mem_toList.mp hpart)
    rcases Option.or_eq_some_iff.mp hchild with hslot | ⟨-, hfirst⟩
    · exact .child (.inr ⟨.content, hslot⟩)
    · exact .child (.inl (List.mem_of_head? hfirst))
  · split at hpart
    · exact site.of_childParts part hpart
    · cases hpart
  · cases hpart

/-- What is found at a component is its own node, a frame or a label of a list, or drawn for
something that the component contains. -/
theorem mem_preorder_cases {n : Node} (h : n ∈ (site.node draw).preorder) :
    n = site.node draw ∨ n.IsFrame ∨ (∃ id text, n = Node.label id text none)
      ∨ ∃ item content id, site.component.Contains content
        ∧ draw { site.handed with item } content id ∈ (site.node draw).preorder
        ∧ n ∈ (draw { site.handed with item } content id).preorder := by
  rcases Node.mem_preorder.mp h with rfl | ⟨child, hchild, hn⟩
  · exact .inl rfl
  · have hparts := hchild
    rw [node_eq] at hparts
    obtain ⟨part, hpart, rfl⟩ := List.mem_map.mp hparts
    rcases (site.of_parts part hpart).mem_preorder_draw hn with hframe | hlabel | hdrawn
    · exact .inr (.inl hframe)
    · exact .inr (.inr (.inl hlabel))
    · obtain ⟨item, content, id, hcontent, hmem, hn⟩ := hdrawn
      refine .inr (.inr (.inr ⟨item, content, id, hcontent, ?_, hn⟩))
      exact Node.mem_preorder.mpr (.inr ⟨_, hchild, hmem⟩)

/-- A node that does something is the node of the component itself, or drawn for a child. -/
lemma mem_preorder_node {n : Node} (h : n ∈ (site.node draw).preorder)
    (hactive : n.interaction ≠ none) :
    n = site.node draw
      ∨ ∃ item content id,
        draw { site.handed with item } content id ∈ (site.node draw).preorder
          ∧ n ∈ (draw { site.handed with item } content id).preorder := by
  rcases site.mem_preorder_cases draw h with hself | hframe | ⟨id, text, rfl⟩ | hdrawn
  · exact .inl hself
  · exact absurd hframe.1 hactive
  · exact absurd rfl hactive
  · obtain ⟨item, content, id, -, hmem, hn⟩ := hdrawn
    exact .inr ⟨item, content, id, hmem, hn⟩

end Site

namespace Stage

variable (stage : Stage) (session : Session)

/-- A child is drawn as the node of its component, or as a mark that nothing has the id. -/
lemma draw_cases (depth : Nat) (scope : Scope) (content : Child) (id : String) :
    (∃ component, stage.draw session (depth + 1) scope content id
        = (stage.site session scope component id).node (stage.draw session depth))
      ∨ ∃ reference,
        stage.draw session (depth + 1) scope content id = Node.missing id reference .notFound := by
  cases content with
  | «inline» component => exact .inl ⟨component, rfl⟩
  | reference reference =>
    simp only [draw]
    split
    · next component _ => exact .inl ⟨component.overridden reference, rfl⟩
    · exact .inr ⟨reference.id, rfl⟩

end Stage

end Wireframe
