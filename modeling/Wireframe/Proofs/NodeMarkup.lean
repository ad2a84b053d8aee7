import Wireframe.Node.Markup
import Wireframe.Proofs.MarkupTokens
import Wireframe.Proofs.Traversal

/-!
# Reading nodes back

What each widget makes of the node it belongs to and of the children that are drawn already. All names
of attributes in the markup of a tree are names, so the written tree is read back as it was meant:
`Node.scan?_html`.
-/

namespace Wireframe

@[simp] lemma Markup.wellNamed_styledSpan (css content : String) :
    (styledSpan css content).WellNamed := by
  simp only [styledSpan, wellNamed_element, List.forall_mem_singleton, wellNamed_text, and_true]
  decide

namespace Node

/-! ### Elements by widget -/

/-- Whether the widget draws buttons. The others draw their children as they are, or not at all. -/
def drawsButtons : Widget → Bool
  | .popup _ _ => true
  | .snackbar _ _ => true
  | _ => false

lemma drawsButtons_cases (widget : Widget) :
    (∃ popupId title, widget = .popup popupId title)
      ∨ (∃ message actionLabel, widget = .snackbar message actionLabel)
      ∨ drawsButtons widget = false := by
  cases widget <;> simp [drawsButtons]

lemma markup_of_drawsButtons {node : Node} (h : drawsButtons node.widget = false) :
    node.markup = element (widgetTag node.widget) node (widgetCss node.widget)
      (content (node.children.map markup) node.widget) := by
  rw [markup_eq, markupWith]
  split
  next hwidget => simp [hwidget, drawsButtons] at h
  next hwidget => simp [hwidget, drawsButtons] at h
  next => rfl

lemma markup_snackbar {node : Node} {message : String} {actionLabel : Option String}
    (h : node.widget = .snackbar message actionLabel) :
    node.markup = element .div node (widgetCss node.widget)
      (.text message :: node.children.map snackbarButton) := by
  simp only [markup_eq node, markupWith, h]

/-- A popup is drawn as a card on a scrim. The children come in their order, but the first one that
closes the popup is drawn last, as a flat button. -/
lemma markup_popup {node : Node} {popupId : String} {title : Option String}
    (h : node.widget = .popup popupId title) :
    ∃ scrimCss cardCss, node.markup =
      .element .div
        [("data-wv-node", node.id), ("data-wv-kind", node.widget.name),
          ("data-wv-interactive", "true"), ("style", scrimCss)]
        [.element .div
          [("data-wv-node", node.id ++ "/card"), ("data-wv-stop", "true"), ("style", cardCss)]
          ((title.toList.map fun title =>
              .element .heading [("style", "margin:0;font-size:20px;")] [.text title])
            ++ (node.children.eraseP closesPopup).map markup
            ++ (node.children.find? closesPopup).toList.map
              (flatButton · "align-self:flex-end;color:#2563eb;"))] := by
  have hzip : node.children.zip (node.children.map markup)
      = node.children.map fun child => (child, child.markup) := by
    simpa using List.zip_map' (f := fun child => child) (g := markup) (l := node.children)
  simp only [markup_eq node, markupWith, h, popupMarkup, hzip, List.find?_map, List.eraseP_map,
    List.map_map, Option.toList_map]
  exact ⟨_, _, rfl⟩

/-! ### Names of attributes -/

lemma wellNamed_element (tag : Tag) (node : Node) (css : String) {content : List Markup}
    (h : ∀ item ∈ content, item.WellNamed) : (element tag node css content).WellNamed := by
  rw [element, Markup.wellNamed_element]
  have hnames : ∀ name ∈ ["data-wv-node", "data-wv-kind", "data-wv-interactive", "style"],
      Scanner.IsName name := by decide
  refine ⟨fun attr hattr => hnames attr.1 ?_, h⟩
  simp only [List.mem_append, List.mem_cons] at hattr
  split_ifs at hattr <;> aesop

lemma wellNamed_optionalSpan (css : String) (content : Option String) :
    ∀ item ∈ optionalSpan css content, item.WellNamed := by
  cases content <;> simp [optionalSpan]

lemma wellNamed_swipeSide (actions : List SwipeAction) :
    ∀ item ∈ swipeSide actions, item.WellNamed := by
  have hstyle : Scanner.IsName "style" := by decide
  unfold swipeSide
  split <;> simp [hstyle]

lemma wellNamed_fieldControl (hint : Option String) (value : String) (secure multiline : Bool) :
    (fieldControl hint value secure multiline).WellNamed := by
  have hnames : ∀ name ∈ ["type", "placeholder", "value", "style"], Scanner.IsName name := by decide
  unfold fieldControl
  split <;> simp_all

lemma wellNamed_fieldNote (helper error : Option String) :
    ∀ item ∈ fieldNote helper error, item.WellNamed := by
  cases error <;> cases helper <;> simp [fieldNote]

lemma wellNamed_content {drawn : List Markup} (h : ∀ item ∈ drawn, item.WellNamed)
    (widget : Widget) : ∀ item ∈ content drawn widget, item.WellNamed := by
  have hlabel : Scanner.IsName "aria-label" := by decide
  have hstyle : Scanner.IsName "style" := by decide
  cases widget with
  | screen title =>
    exact List.forall_mem_append.mpr ⟨wellNamed_optionalSpan _ title, h⟩
  | page title =>
    exact List.forall_mem_append.mpr ⟨wellNamed_optionalSpan _ title, h⟩
  | card header footer =>
    simp only [content, List.forall_mem_append]
    exact ⟨⟨wellNamed_optionalSpan _ header, h⟩, wellNamed_optionalSpan _ footer⟩
  | swipe left right =>
    simp only [content, List.forall_mem_append]
    exact ⟨⟨wellNamed_swipeSide left, by simpa [hstyle] using h⟩, wellNamed_swipeSide right⟩
  | button text glyph =>
    exact List.forall_mem_append.mpr ⟨wellNamed_optionalSpan _ glyph, by simp⟩
  | textField label hint value helper error secure multiline =>
    refine List.forall_mem_append.mpr ⟨wellNamed_optionalSpan _ label, ?_⟩
    exact List.forall_mem_cons.mpr ⟨wellNamed_fieldControl hint value secure multiline,
      wellNamed_fieldNote helper error⟩
  | toggle label on style =>
    exact List.forall_mem_append.mpr ⟨wellNamed_optionalSpan _ label, by simp⟩
  | radioGroup label =>
    refine List.forall_mem_append.mpr ⟨?_, h⟩
    simp
  | _ => simp_all [content]

lemma wellNamed_flatButton (node : Node) (css : String) : (flatButton node css).WellNamed := by
  refine wellNamed_element .button _ _ ?_
  split <;> simp

/-- The elements of a tree have attributes whose names are names. -/
lemma wellNamed_markup (node : Node) : node.markup.WellNamed := by
  induction node using induct with
  | step node ih =>
    have hdrawn : ∀ item ∈ node.children.map markup, item.WellNamed := by simpa using ih
    rcases drawsButtons_cases node.widget with
      ⟨popupId, title, hwidget⟩ | ⟨message, actionLabel, hwidget⟩ | hwidget
    · obtain ⟨scrimCss, cardCss, hmarkup⟩ := markup_popup hwidget
      have hnames : ∀ name ∈ ["data-wv-node", "data-wv-kind", "data-wv-interactive", "data-wv-stop",
          "style"], Scanner.IsName name := by decide
      have hkept : ∀ child ∈ node.children.eraseP closesPopup, child.markup.WellNamed :=
        fun child hchild => ih child (List.mem_of_mem_eraseP hchild)
      rw [hmarkup]
      simp_all [wellNamed_flatButton, or_imp, forall_and]
    · rw [markup_snackbar hwidget]
      refine wellNamed_element _ _ _ (List.forall_mem_cons.mpr ⟨by simp, ?_⟩)
      simp [snackbarButton, wellNamed_flatButton]
    · rw [markup_of_drawsButtons hwidget]
      exact wellNamed_element _ _ _ (wellNamed_content hdrawn _)

/-- A written tree is read back as the tags and the texts that its markup consists of. -/
theorem scan?_html (node : Node) : Token.scan? node.html = some node.markup.tokens :=
  Markup.scan?_print (wellNamed_markup node)

end Node

end Wireframe
