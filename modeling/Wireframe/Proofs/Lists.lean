import Wireframe.Proofs.CurrentScreen
import Wireframe.Proofs.DataReads

/-!
# Lists

A list is drawn as one item after the other, each by the same template in the scope of its own item,
between a header and a footer (`Site.lists_node`). As drawing inside an item depends on the rest of the
data only through the bindings that name it, an item stays as it is when others change, unless the
template reads these by such a binding (`Stage.lists_draw`).
-/

namespace Wireframe

namespace Node

/-- Whether a node is the frame of an item. -/
def isItem (node : Node) : Bool :=
  node.widget matches .collectionItem _

/-- Whether a node is the frame of what stands in for the items. -/
def isEmptyView (node : Node) : Bool :=
  node.widget matches .emptyView

end Node

namespace Site

/-- Whether a node is the list of a site, with what is inside drawn in this way. -/
structure Lists (site : Site) (draw : Draw) (node : Node) : Prop where
  id : node.id = site.id
  widget : node.widget = .collection site.items.length
  /-- The template is the slot for it, or the content slot, or the first child. -/
  items : node.children.filter Node.isItem = site.items.mapIdx fun i item =>
    { id := site.partId (Nat.repr i)
      widget := .collectionItem i
      children :=
        [match (site.component.slots.template.or site.component.slots.content).or
            site.component.allChildren.head? with
          | some template =>
            draw { site.scope with item := some item } template (site.partId (Nat.repr i) ++ "/0")
          | none => Node.label (site.partId (Nat.repr i) ++ "/0") item.display none] }
  /-- Only a list that stands by itself has a header and a footer. -/
  children : node.children =
    (if site.component.type = .collectionView then
        (site.component.slots.header.map fun child =>
          draw site.scope child (site.partId "header")).toList
      else [])
    ++ node.children.filter Node.isItem
    ++ (if site.items = [] then
        (site.component.slots.emptyView.map fun child =>
          { id := site.partId "empty"
            widget := .emptyView
            children := [draw site.scope child (site.partId "empty/0")] }).toList
      else [])
    ++ (if site.component.type = .collectionView then
        (site.component.slots.footer.map fun child =>
          draw site.scope child (site.partId "footer")).toList
      else [])
  emptyView : (∃ child ∈ node.children, child.isEmptyView)
    ↔ site.items = [] ∧ site.component.slots.emptyView.isSome

/-- Whether another list shows an item in the same place as this one. -/
structure SharesItem (site other : Site) (index : Nat) : Prop where
  id : other.id = site.id
  template : other.template? = site.template?
  /-- The lists themselves may stand inside different items. -/
  scope : { other.scope with item := none } = { site.scope with item := none }
  item : other.items[index]? = site.items[index]?

end Site

/-- Whether every child is drawn as something that is no frame of a list. -/
def Draw.Frameless (draw : Draw) : Prop :=
  ∀ scope child id, (draw scope child id).isItem = false ∧ (draw scope child id).isEmptyView = false

namespace Site

variable {site : Site} {draw : Draw}

lemma isItem_node : (site.node draw).isItem = false ∧ (site.node draw).isEmptyView = false := by
  simp only [node, body]
  cases site.component.type.form with
  | stack =>
    simp only [stack]
    split <;> exact ⟨rfl, rfl⟩
  | generic =>
    simp only [other]
    split <;> exact ⟨rfl, rfl⟩
  | _ => exact ⟨rfl, rfl⟩

end Site

lemma Stage.frameless_draw (stage : Stage) (session : Session) (depth : Nat) :
    Draw.Frameless (stage.draw session depth) := by
  intro scope child id
  cases depth with
  | zero => exact ⟨rfl, rfl⟩
  | succ depth =>
    rcases stage.draw_cases session depth scope child id with ⟨component, hdraw⟩ | ⟨reference, hdraw⟩
    · rw [hdraw]
      exact Site.isItem_node
    · rw [hdraw]
      exact ⟨rfl, rfl⟩

namespace Site

variable {site : Site} {draw : Draw}

lemma isItem_of_mem_slot (hdraw : draw.Frameless) {slot : Slot} {framed : Prop} [Decidable framed]
    {node : Node} (h : node ∈ (if framed then site.slot? draw slot else none).toList) :
    node.isItem = false ∧ node.isEmptyView = false := by
  rw [Option.mem_toList] at h
  split at h
  · obtain ⟨child, -, rfl⟩ := Option.map_eq_some_iff.mp h
    exact hdraw _ _ _
  · cases h

/-- What stands between header and footer are the items, or the empty view. -/
lemma children_list (hform : site.component.type.form = .collection) :
    (site.node draw).children =
      (if site.component.type ≠ .dataTemplate then site.slot? draw .header else none).toList
        ++ site.items.mapIdx (site.item draw)
        ++ (if site.items = [] then (site.emptyView? draw).toList else [])
        ++ (if site.component.type ≠ .dataTemplate then site.slot? draw .footer else none).toList := by
  simp only [node, body, hform, collection, Node.collection]
  cases hitems : site.items with
  | nil =>
    have hvalue : (site.value .items).items?.getD [] = [] := hitems
    simp [hvalue]
  | cons item items =>
    have hvalue : (site.value .items).items?.getD [] = item :: items := hitems
    simp [hvalue]

lemma filter_isItem_list (hform : site.component.type.form = .collection) (hdraw : draw.Frameless) :
    (site.node draw).children.filter Node.isItem = site.items.mapIdx (site.item draw) := by
  have hslot : ∀ slot : Slot,
      (if site.component.type ≠ .dataTemplate then site.slot? draw slot else none).toList.filter
        Node.isItem = [] := fun slot =>
    List.filter_eq_nil_iff.mpr fun node hnode =>
      ne_true_of_eq_false (isItem_of_mem_slot hdraw hnode).1
  have hempty : (if site.items = [] then (site.emptyView? draw).toList else []).filter Node.isItem
      = [] := by
    refine List.filter_eq_nil_iff.mpr fun node hnode => ?_
    split at hnode
    · obtain ⟨child, -, rfl⟩ := Option.map_eq_some_iff.mp (Option.mem_toList.mp hnode)
      exact Bool.false_ne_true
    · cases hnode
  have hitems : (site.items.mapIdx (site.item draw)).filter Node.isItem
      = site.items.mapIdx (site.item draw) := by
    refine List.filter_eq_self.mpr fun node hnode => ?_
    obtain ⟨i, hi, rfl⟩ := List.mem_mapIdx.mp hnode
    rfl
  simp only [children_list hform, List.filter_append, hslot, hempty, hitems, List.nil_append,
    List.append_nil]

lemma isEmptyView_list (hform : site.component.type.form = .collection) (hdraw : draw.Frameless) :
    (∃ child ∈ (site.node draw).children, child.isEmptyView)
      ↔ site.items = [] ∧ site.component.slots.emptyView.isSome := by
  rw [children_list hform]
  constructor
  · rintro ⟨node, hnode, hview⟩
    rcases List.mem_append.mp hnode with hnode | hfooter
    · rcases List.mem_append.mp hnode with hnode | hempty
      · rcases List.mem_append.mp hnode with hheader | hitem
        · exact absurd hview (ne_true_of_eq_false (isItem_of_mem_slot hdraw hheader).2)
        · obtain ⟨i, hi, rfl⟩ := List.mem_mapIdx.mp hitem
          cases hview
      · split at hempty
        · next hnil =>
          obtain ⟨child, hchild, -⟩ := Option.map_eq_some_iff.mp (Option.mem_toList.mp hempty)
          exact ⟨hnil, hchild ▸ rfl⟩
        · cases hempty
    · exact absurd hview (ne_true_of_eq_false (isItem_of_mem_slot hdraw hfooter).2)
  · rintro ⟨hnil, hsome⟩
    obtain ⟨child, hchild⟩ := Option.isSome_iff_exists.mp hsome
    obtain ⟨view, hview, hframe⟩ : ∃ view, site.emptyView? draw = some view ∧ view.isEmptyView := by
      rw [emptyView?, hchild]
      exact ⟨_, rfl, rfl⟩
    refine ⟨view, ?_, hframe⟩
    simp [hnil, hview]

lemma form_of_list {type : ComponentType} (htype : type = .collectionView ∨ type = .dataTemplate) :
    type.form = .collection := by
  rcases htype with rfl | rfl <;> rfl

/-- The node of a list is as it should be, if what is drawn inside is no frame itself. -/
theorem lists_node (htype : site.component.type = .collectionView ∨ site.component.type = .dataTemplate)
    (hdraw : draw.Frameless) : site.Lists draw (site.node draw) := by
  have hform := form_of_list htype
  have hframed : ∀ slot : Slot,
      (if site.component.type ≠ .dataTemplate then site.slot? draw slot else none).toList
        = if site.component.type = .collectionView then (site.slot? draw slot).toList else [] := by
    intro slot
    rcases htype with htype | htype <;> rw [htype] <;> rfl
  have hitems := filter_isItem_list hform hdraw
  refine ⟨site.id_node draw, ?_, hitems.trans rfl, ?_, isEmptyView_list hform hdraw⟩
  · simp only [node, body, hform, collection, Node.collection, List.length_mapIdx]
    rfl
  · rw [hitems, children_list hform, hframed, hframed]
    rfl

end Site

namespace Stage

variable {stage changed : Stage} {session after : Session}

/-- What a list draws for an item does not change, if nothing does that counts for the template. -/
lemma item_eq_of_agreesOn {site other : Site} {index depth : Nat} (h : site.SharesItem other index)
    (hagrees : ∀ template ∈ site.template?, stage.AgreesOn session template changed after) :
    (other.items[index]?).map (other.item (changed.draw after depth) index)
      = (site.items[index]?).map (site.item (stage.draw session depth) index) := by
  have hpart : other.partId (Nat.repr index) = site.partId (Nat.repr index) := by
    rw [Site.partId, Site.partId, h.id]
  have hscope : ∀ item, { other.scope with item := some item }
      = { site.scope with item := some item } := fun item =>
    congrArg (fun scope : Scope => { scope with item := some item }) h.scope
  have hcontent : ∀ item id, other.itemContent (changed.draw after depth) item id
      = site.itemContent (stage.draw session depth) item id := by
    intro item id
    simp only [Site.itemContent, h.template, hscope]
    cases htemplate : site.template? with
    | none => rfl
    | some template =>
      let cue : Cue := { scope := { site.scope with item := some item }, child := template, id }
      exact @AgreesOn.draw_eq _ _ _ _ _ (hagrees template htemplate) depth cue (.start rfl) rfl
  rw [h.item]
  refine Option.map_congr fun item _ => ?_
  simp only [Site.item, hpart, hcontent]

lemma drawAt_eq_node {depth : Nat} (hdepth : depth < maxDepth) {cue : Cue} {component : Component}
    (hcomponent : stage.resolve? cue.child = some component) :
    cue.draw (stage.drawAt session depth)
      = (stage.site session cue.scope component cue.id).node (stage.drawAt session (depth + 1)) := by
  rw [draws_drawAt.shallow depth hdepth, hcomponent]

lemma items_drawAt {depth : Nat} (hdepth : depth < maxDepth) {cue : Cue} {component : Component}
    (hcomponent : stage.resolve? cue.child = some component)
    (htype : component.type = .collectionView ∨ component.type = .dataTemplate) (index : Nat) :
    ((cue.draw (stage.drawAt session depth)).children.filter Node.isItem)[index]?
      = ((stage.site session cue.scope component cue.id).items[index]?).map
        ((stage.site session cue.scope component cue.id).item
          (stage.drawAt session (depth + 1)) index) := by
  have hdraw : Draw.Frameless (stage.drawAt session (depth + 1)) := stage.frameless_draw session _
  rw [drawAt_eq_node hdepth hcomponent, Site.filter_isItem_list (Site.form_of_list htype) hdraw,
    List.getElem?_mapIdx]

end Stage

/-- Two people, of whom the second one has this name. -/
def Json.people (second : String) : Json :=
  .object
    [("people", .array
      [.object [("name", .string "Ada")], .object [("name", .string second)]])]

/-- A document with two lists of the same people, and a field for the name of the second one. The
template of the first list reads its item, that of the second list always the person of the field. -/
def Json.directory : Json :=
  .object
    [("pages", .object
        [("Home", .object
            [("layout", .object
              [("type", .string "VerticalStack"),
                ("children", .array
                  [.object
                      [("type", .string "CollectionView"), ("items", .string "@state.people"),
                        ("template", .object
                          [("type", .string "Label"), ("text", .string "\x7bbinding name\x7d")])],
                    .object
                      [("type", .string "CollectionView"), ("items", .string "@state.people"),
                        ("template", .object
                          [("type", .string "Label"), ("text", .string "@state.people.1.name")])],
                    .object
                      [("type", .string "Entry"), ("value", .string "@state.people.1.name")]])])])]),
      ("state", .people "Bob")]

namespace Stage

variable {stage : Stage}

/-- A component that contains nothing leads to nothing but itself. -/
lemma Reached.eq_of_leaf {leaf : Component} {child : Child} (hleaf : leaf.contents = [])
    (h : stage.Reached (· = .inline leaf) child) : child = .inline leaf := by
  induction h with
  | start h => exact h
  | inner _ hchild ih =>
    cases ih
    have hmem := Component.mem_contents hchild
    rw [hleaf] at hmem
    cases hmem
  | followed _ _ ih => cases ih

/-- A list that is above the limit is drawn as it should be, with what is inside one level deeper. In
another session or document, a list with an item in the same place draws the same for it, if nothing is
different that counts for the template. -/
theorem lists_draw (stage : Stage) (session : Session) {depth : Nat} (hdepth : depth < maxDepth)
    {cue : Cue} {component : Component} (hcomponent : stage.resolve? cue.child = some component)
    (htype : component.type = .collectionView ∨ component.type = .dataTemplate) :
    let site := stage.site session cue.scope component cue.id
    let node := cue.draw (stage.drawAt session depth)
    site.Lists (stage.drawAt session (depth + 1)) node
      ∧ ∀ (changed : Stage) (after : Session) (next : Cue) (other : Component),
        changed.resolve? next.child = some other →
          (other.type = .collectionView ∨ other.type = .dataTemplate) →
          ∀ index, site.SharesItem (changed.site after next.scope other next.id) index →
            (∀ template ∈ site.template?, stage.AgreesOn session template changed after) →
            ((next.draw (changed.drawAt after depth)).children.filter Node.isItem)[index]?
              = (node.children.filter Node.isItem)[index]? := by
  intro site node
  refine ⟨?_, fun changed after next other hnext hother index hshares hagrees => ?_⟩
  · have hnode : node = site.node (stage.drawAt session (depth + 1)) :=
      drawAt_eq_node hdepth hcomponent
    rw [hnode]
    exact Site.lists_node htype (stage.frameless_draw session _)
  · rw [items_drawAt hdepth hnext hother, items_drawAt hdepth hcomponent htype]
    exact item_eq_of_agreesOn hshares hagrees

/-- The first list shows its first person as before if the second one gets another name. -/
theorem lists_draw_directory :
    ∃ document list label, Document.ofJson? Json.directory = .ok document
      ∧ list.slots.template = some (.inline label)
      ∧ (let stage : Stage := { document, options := { now := 0 } }
        let session := Session.initial document
        let after := { session with values := .people "Eve" }
        let cue : Cue := { scope := {}, child := .inline list, id := "screen/page/0/0" }
        stage.AgreesOn session (.inline label) stage after
          ∧ (stage.site session {} list cue.id).Lists (stage.drawAt session 2)
            (cue.draw (stage.drawAt session 1))
          ∧ ((cue.draw (stage.drawAt after 1)).children.filter Node.isItem)[0]?
            = ((cue.draw (stage.drawAt session 1)).children.filter Node.isItem)[0]?) := by
  obtain ⟨document, stack, list, label, hload, -, -, htype, htemplate, hleaf, hfields, hitem⟩ :
      ∃ document stack list label, Document.ofJson? Json.directory = .ok document
        ∧ (document.page? "Home").bind Page.layout = some (.inline stack)
        ∧ stack.allChildren.head? = some (.inline list)
        ∧ list.type = .collectionView
        ∧ list.slots.template = some (.inline label)
        ∧ label.contents = []
        ∧ (label.view.fields.all fun (_, prop) => !prop.readsData)
        ∧ (let stage : Stage := { document, options := { now := 0 } }
          let session := Session.initial document
          let after := { session with values := .people "Eve" }
          (stage.site after {} list "screen/page/0/0").items[0]?
            = (stage.site session {} list "screen/page/0/0").items[0]?) :=
    ⟨_, _, _, _, rfl, rfl, rfl, rfl, rfl, rfl, by decide, rfl⟩
  let stage : Stage := { document, options := { now := 0 } }
  let session := Session.initial document
  let after := { session with values := .people "Eve" }
  have hagrees : stage.AgreesOn session (.inline label) stage after := by
    refine ⟨rfl, rfl, rfl, fun _ _ => rfl, fun component hreached field prop hprop hreads => ?_⟩
    cases hreached.eq_of_leaf hleaf
    obtain ⟨before, rest, hview, -⟩ := List.lookup_eq_some_iff.mp hprop
    simp [hview, hreads] at hfields
  have hsite : (stage.site session {} list "screen/page/0/0").template? = some (.inline label) := by
    simp [Site.template?, Stage.site, htemplate]
  obtain ⟨hlists, hchanged⟩ := @lists_draw stage session 1 (by decide)
    ⟨{}, .inline list, "screen/page/0/0"⟩ list rfl (.inl htype)
  refine ⟨document, list, label, hload, htemplate, hagrees, hlists, ?_⟩
  refine hchanged stage after ⟨{}, .inline list, "screen/page/0/0"⟩ list rfl (.inl htype) 0
    ⟨rfl, rfl, rfl, hitem⟩ fun template htemplate => ?_
  cases hsite.symm.trans htemplate
  exact hagrees

/-- The second list shows its first person otherwise if the second one gets another name, since its
template reads that one. -/
theorem lists_directory_ne :
    ∃ document first, Document.ofJson? Json.directory = .ok document
      ∧ Preview.mount (some {}) { document, options := { now := 0 } } = .ok first
      ∧ (let last := (first.run [.changeText "screen/page/0/2" "Eve"]).1
        (first.screen.find? "screen/page/0/1").any (·.widget matches .collection 2)
          ∧ (last.screen.find? "screen/page/0/1").any (·.widget matches .collection 2)
          ∧ first.session.values.lookup (Path.parse "people.0")
            = last.session.values.lookup (Path.parse "people.0")
          ∧ last.screen.find? "screen/page/0/1/0" ≠ first.screen.find? "screen/page/0/1/0") := by
  refine ⟨_, _, rfl, rfl, by decide +kernel, by decide +kernel, rfl, ?_⟩
  refine ne_of_apply_ne (fun item : Option Node =>
    (item.bind (·.children.head?)).any (·.widget matches .text "Bob" _ _)) ?_
  decide +kernel

end Stage

end Wireframe
