import Wireframe.Proofs.NodeMarkup
import Wireframe.Proofs.TabIds
import Mathlib.Data.List.Perm.Basic

/-!
# Elements and nodes

An element of markup that belongs to a node carries the node's id, and a mark if the node does
something. The elements of a tree are its nodes, in preorder but for the close buttons of popups, and
the cards of its popups (`Node.marks_markup`), as long as no widget has children that it does not draw.
-/

namespace Wireframe

/-! ### Marks -/

/-- What a tag says about a node: its id, and that it does something. -/
def Token.mark? : Token → Option (String × Bool)
  | opening _ attributes =>
    (attributes.lookup "data-wv-node").map fun id =>
      (Text.unescape id, (attributes.lookup "data-wv-interactive").isSome)
  | closing _ => none
  | char _ => none

namespace Markup

/-- The marks in markup, each before those of what it contains. -/
def marks (markup : Markup) : List (String × Bool) :=
  markup.tokens.filterMap Token.mark?

/-- The mark that an element has by its attributes. -/
def mark? (attributes : List (String × String)) : Option (String × Bool) :=
  (attributes.lookup "data-wv-node").map fun id =>
    (id, (attributes.lookup "data-wv-interactive").isSome)

lemma lookup_escaped (name : String) (attributes : List (String × String)) :
    (attributes.map Scanner.escaped).lookup name = (attributes.lookup name).map Text.escape := by
  induction attributes with
  | nil => rfl
  | cons attr attributes ih =>
    rw [List.map_cons, List.lookup_cons, List.lookup_cons, ih]
    simp only [Scanner.escaped]
    split <;> rfl

@[simp] lemma marks_text (content : String) : (text content).marks = [] :=
  filterMap_tokens_text (fun _ => rfl) content

@[simp] lemma marks_element (tag : Tag) (attributes : List (String × String))
    (children : List Markup) :
    (element tag attributes children).marks
      = (mark? attributes).toList ++ if tag.isVoid then [] else children.flatMap marks := by
  have hmark : Token.mark? (.opening tag.name (attributes.map Scanner.escaped))
      = mark? attributes := by
    simp only [Token.mark?, lookup_escaped, mark?, Option.map_map, Option.isSome_map]
    simp [Function.comp_def]
  rw [marks, filterMap_tokens_element, hmark]
  simp only [Token.mark?, Option.toList_none, List.append_nil]
  rfl

@[simp] lemma marks_styledSpan (css content : String) : (styledSpan css content).marks = [] := by
  simp [styledSpan, mark?]

end Markup

namespace Node

/-! ### Marks of nodes -/

/-- Whether a widget has no place for children. -/
def isLeaf : Widget → Bool
  | .tab .. => true
  | .text .. => true
  | .icon .. => true
  | .button .. => true
  | .fab .. => true
  | .textField .. => true
  | .picker .. => true
  | .dateTime .. => true
  | .toggle .. => true
  | .radio .. => true
  | .placeholder .. => true
  | .missing .. => true
  | _ => false

lemma marks_optionalSpan (css : String) (text : Option String) :
    (optionalSpan css text).flatMap Markup.marks = [] := by
  cases text <;> simp [optionalSpan]

lemma marks_swipeSide (actions : List SwipeAction) :
    (swipeSide actions).flatMap Markup.marks = [] := by
  unfold swipeSide
  split <;> simp [Markup.mark?]

lemma marks_content (drawn : List Markup) (widget : Widget) :
    (content drawn widget).flatMap Markup.marks
      = if isLeaf widget then [] else drawn.flatMap Markup.marks := by
  have hcontrol (hint : Option String) (value : String) (secure multiline : Bool) :
      (fieldControl hint value secure multiline).marks = [] := by
    cases multiline <;> simp [fieldControl, Markup.mark?]
  have hnote (helper error : Option String) :
      (fieldNote helper error).flatMap Markup.marks = [] := by
    cases error <;> cases helper <;> simp [fieldNote]
  cases widget with
  | fab label => cases label <;> simp [content, isLeaf]
  | radioGroup label => cases label <;> simp [content, isLeaf, Markup.mark?, Tag.isVoid]
  | _ =>
    simp [content, isLeaf, marks_optionalSpan, marks_swipeSide, hcontrol, hnote, Markup.mark?,
      Tag.isVoid]

lemma marks_element {tag : Tag} (htag : tag.isVoid = false) (node : Node) (css : String)
    (content : List Markup) :
    (element tag node css content).marks
      = (node.id, node.interaction.isSome) :: content.flatMap Markup.marks := by
  cases hactive : node.interaction.isSome <;> by_cases hstyle : node.style css = "" <;>
    simp [element, Markup.mark?, List.lookup_cons, htag, hactive, hstyle]

lemma marks_flatButton (node : Node) (css : String) :
    (flatButton node css).marks = [(node.id, node.interaction.isSome)] := by
  rw [flatButton, marks_element rfl]
  split <;> simp

/-! ### The order of elements -/

/-- The order in which a widget draws its children: in a popup, the first one that closes it comes
last. -/
def arrange : Widget → List Node → List Node
  | .popup _ _, children => children.eraseP closesPopup ++ (children.find? closesPopup).toList
  | _, children => children

mutual
/-- The tree with the children of each node in the order in which they are drawn. -/
def arranged : Node → Node
  | ⟨id, widget, attributes, children, interaction, cell⟩ =>
    ⟨id, widget, attributes, arrange widget (arrangedAll children), interaction, cell⟩

def arrangedAll : List Node → List Node
  | [] => []
  | node :: nodes => arranged node :: arrangedAll nodes
end

lemma arrangedAll_eq_map (nodes : List Node) : arrangedAll nodes = nodes.map arranged := by
  induction nodes with
  | nil => rfl
  | cons node nodes ih => rw [arrangedAll, ih, List.map_cons]

/-- Only children move. -/
lemma arranged_eq (node : Node) :
    node.arranged
      = { node with children := arrange node.widget (node.children.map arranged) } := by
  cases node
  rw [arranged, arrangedAll_eq_map]

lemma closesPopup_arranged (node : Node) : node.arranged.closesPopup = node.closesPopup := by
  rw [arranged_eq]
  rfl

lemma arrange_map (widget : Widget) (children : List Node) :
    arrange widget (children.map arranged) = (arrange widget children).map arranged := by
  have hcloses : closesPopup ∘ arranged = closesPopup := funext closesPopup_arranged
  cases widget with
  | popup popupId title =>
    simp only [arrange, List.eraseP_map, List.find?_map, hcloses, List.map_append,
      Option.toList_map]
  | _ => rfl

lemma arrange_of_drawsButtons {widget : Widget} (h : drawsButtons widget = false)
    (children : List Node) : arrange widget children = children := by
  unfold arrange
  split
  · cases h
  · rfl

lemma perm_arrange (widget : Widget) (children : List Node) :
    (arrange widget children).Perm children := by
  cases widget with
  | popup popupId title =>
    rw [arrange]
    cases hclose : children.find? closesPopup with
    | none =>
      have hnone : ∀ child ∈ children, ¬ child.closesPopup = true := List.find?_eq_none.mp hclose
      simp [List.eraseP_of_forall_not hnone]
    | some close => exact (List.perm_append_singleton close _).trans (perm_cons_eraseP hclose)
  | _ => rfl

/-- What is said of each node without regard to its children is said of the same nodes in either
order. -/
lemma perm_arranged {α : Type} {f : Node → List α}
    (hf : ∀ node : Node, f node.arranged = f node) (node : Node) :
    (node.arranged.preorder.flatMap f).Perm (node.preorder.flatMap f) := by
  induction node using induct with
  | step node ih =>
    have hchildren : ((node.children.map arranged).flatMap (·.preorder.flatMap f)).Perm
        (node.children.flatMap (·.preorder.flatMap f)) := by
      rw [List.flatMap_map]
      exact List.Perm.flatMap_left _ ih
    rw [preorder_eq, preorder_eq node, List.flatMap_cons, List.flatMap_cons, hf,
      preorderAll_eq_flatMap, preorderAll_eq_flatMap, List.flatMap_assoc, List.flatMap_assoc]
    refine List.Perm.append_left _ ?_
    rw [arranged_eq]
    exact ((perm_arrange _ _).flatMap_right _).trans hchildren

/-! ### Trees that are drawn whole -/

/-- Whether a node is a button with nothing below it. -/
def IsButton (node : Node) : Prop :=
  node.children = [] ∧ ∃ caption glyph, node.widget = .button caption glyph

/-- Whether the markup of a node has elements for all of its children, and says that the node does
something if it does. -/
structure Faithful (node : Node) : Prop where
  leaf : isLeaf node.widget = true → node.children = []
  snackbar : ∀ message actionLabel, node.widget = .snackbar message actionLabel →
    ∀ child ∈ node.children, child.IsButton
  popup : ∀ popupId title, node.widget = .popup popupId title → node.interaction.isSome = true
    ∧ ∀ child ∈ node.children, child.closesPopup = true → child.IsButton

def isPopup (node : Node) : Bool :=
  match node.widget with
  | .popup _ _ => true
  | _ => false

/-- The id of the card that a popup is drawn with. -/
def cardId (node : Node) : String := node.id ++ "/card"

/-- The marks of a node: its own, and that of the card if it is a popup. -/
def marks (node : Node) : List (String × Bool) :=
  (node.id, node.interaction.isSome) :: if node.isPopup then [(node.cardId, false)] else []

lemma marks_arranged (node : Node) : node.arranged.marks = node.marks := by
  rw [arranged_eq]
  rfl

lemma isVoid_widgetTag (widget : Widget) : (widgetTag widget).isVoid = false := by
  cases widget <;> rfl

lemma marks_of_drawsButtons {node : Node} (h : drawsButtons node.widget = false) :
    node.markup.marks = (node.id, node.interaction.isSome)
      :: if isLeaf node.widget then [] else node.children.flatMap (·.markup.marks) := by
  rw [markup_of_drawsButtons h, marks_element (isVoid_widgetTag _), marks_content, List.flatMap_map]

lemma IsButton.marks_markup {node : Node} (h : node.IsButton) :
    node.markup.marks = [(node.id, node.interaction.isSome)] := by
  obtain ⟨-, caption, glyph, hwidget⟩ := h
  rw [marks_of_drawsButtons (by rw [hwidget]; rfl), hwidget]
  rfl

lemma marks_popup {node : Node} {popupId : String} {title : Option String}
    (hself : node.Faithful) (h : node.widget = .popup popupId title) :
    node.markup.marks
      = node.marks ++ (arrange node.widget node.children).flatMap (·.markup.marks) := by
  obtain ⟨hactive, hbutton⟩ := hself.popup _ _ h
  obtain ⟨scrimCss, cardCss, hmarkup⟩ := markup_popup h
  have hclose : ((node.children.find? closesPopup).toList.map
      (flatButton · "align-self:flex-end;color:#2563eb;")).flatMap Markup.marks
        = (node.children.find? closesPopup).toList.flatMap (·.markup.marks) := by
    cases hfind : node.children.find? closesPopup with
    | none => rfl
    | some close =>
      have hmarks := (hbutton close (List.mem_of_find?_eq_some hfind)
        (List.find?_some hfind)).marks_markup
      simp [marks_flatButton, hmarks]
  rw [hmarkup]
  simp [Markup.mark?, Tag.isVoid, List.lookup_cons, marks, isPopup, cardId, h, arrange, hclose, hactive,
    List.flatMap_map]

lemma marks_snackbar {node : Node} {message : String} {actionLabel : Option String}
    (hself : node.Faithful) (h : node.widget = .snackbar message actionLabel) :
    node.markup.marks
      = node.marks ++ (arrange node.widget node.children).flatMap (·.markup.marks) := by
  have hbuttons : node.children.flatMap (fun child => (snackbarButton child).marks)
      = node.children.flatMap (·.markup.marks) := by
    refine List.flatMap_congr fun child hchild => ?_
    rw [snackbarButton, marks_flatButton,
      (hself.snackbar _ _ h child hchild).marks_markup]
  rw [markup_snackbar h, marks_element rfl, List.flatMap_cons, Markup.marks_text, List.flatMap_map,
    hbuttons]
  simp [marks, isPopup, h, arrange]

lemma marks_plain {node : Node} (hself : node.Faithful) (h : drawsButtons node.widget = false) :
    node.markup.marks
      = node.marks ++ (arrange node.widget node.children).flatMap (·.markup.marks) := by
  have hmarks : node.marks = [(node.id, node.interaction.isSome)] := by
    unfold marks isPopup
    split
    · next hwidget => simp [hwidget, drawsButtons] at h
    · rfl
  rw [marks_of_drawsButtons h, hmarks, arrange_of_drawsButtons h]
  split
  · next hleaf => simp [hself.leaf hleaf]
  · rfl

/-- The elements of a tree mark its nodes in the order in which they are drawn. -/
theorem marks_markup (node : Node) (h : ∀ n ∈ node.preorder, n.Faithful) :
    node.markup.marks = node.arranged.preorder.flatMap marks := by
  induction node using induct with
  | step node ih =>
    have hself : node.Faithful := h node (mem_preorder_self node)
    have hbelow : (arrange node.widget node.children).flatMap (·.markup.marks)
        = (arrange node.widget node.children).flatMap (·.arranged.preorder.flatMap marks) := by
      refine List.flatMap_congr fun child hchild => ?_
      have hchild := (perm_arrange _ _).mem_iff.mp hchild
      exact ih child hchild fun n hn => h n (mem_preorder.mpr (.inr ⟨child, hchild, hn⟩))
    have hpreorder : node.arranged.preorder.flatMap marks
        = node.marks ++ (arrange node.widget node.children).flatMap (·.markup.marks) := by
      have hchildren : node.arranged.children
          = (arrange node.widget node.children).map arranged := by
        rw [arranged_eq, ← arrange_map]
      rw [preorder_eq, List.flatMap_cons, marks_arranged, preorderAll_eq_flatMap, hchildren,
        List.flatMap_assoc, List.flatMap_map, hbelow]
    rw [hpreorder]
    rcases drawsButtons_cases node.widget with
      ⟨popupId, title, hwidget⟩ | ⟨message, actionLabel, hwidget⟩ | hwidget
    · exact marks_popup hself hwidget
    · exact marks_snackbar hself hwidget
    · exact marks_plain hself hwidget

/-- The marked ids of a tree are those of its nodes and of the cards of its popups. -/
theorem perm_marks (node : Node) :
    ((node.arranged.preorder.flatMap marks).map Prod.fst).Perm
      (node.preorder.map id ++ (node.preorder.filter isPopup).map cardId) := by
  have hids : ((node.preorder.flatMap marks).map Prod.fst)
      = node.preorder.flatMap fun n => n.id :: if n.isPopup then [n.cardId] else [] := by
    rw [List.map_flatMap]
    refine List.flatMap_congr fun n _ => ?_
    unfold marks
    split <;> rfl
  have hcards : (node.preorder.filter isPopup).map cardId
      = node.preorder.flatMap fun n => if n.isPopup then [n.cardId] else [] := by
    generalize node.preorder = nodes
    induction nodes with
    | nil => rfl
    | cons n nodes ih =>
      rw [List.filter_cons, List.flatMap_cons, ← ih]
      split <;> rfl
  refine ((perm_arranged marks_arranged node).map Prod.fst).trans ?_
  rw [hids, hcards]
  exact (List.map_append_flatMap_perm _ _ _).symm

end Node

end Wireframe
