import Wireframe.Node.Build
import Wireframe.Proofs.NodeMarkup
import Mathlib.Data.List.Basic

/-!
# The outline of a page

The markup of a tree of nodes is well formed whatever texts the tree holds: tags are closed in order,
and no value ends before its quote. And its tags, with the names of their attributes, are those of the
shape of the tree, in which all texts and numbers are blank (`Node.outline_html`).
-/

namespace Wireframe

namespace Token

/-! ### Well-formed sequences of tags -/

/-- Whether the elements that are open, the innermost first, and those that are opened from here on
are all closed in order. An `input` is not to be closed. -/
def nested : List String → List Token → Bool
  | unclosed, [] => unclosed.isEmpty
  | unclosed, opening tag _ :: tokens =>
    nested (if tag = "input" then unclosed else tag :: unclosed) tokens
  | [], closing _ :: _ => false
  | innermost :: unclosed, closing tag :: tokens => innermost = tag && nested unclosed tokens
  | unclosed, char _ :: tokens => nested unclosed tokens

/-- A tag with the names of its attributes only. -/
def bare? : Token → Option Token
  | opening tag attributes => some (opening tag (attributes.map fun attr => (attr.1, "")))
  | closing tag => some (closing tag)
  | char _ => none

/-- The tags in their order, with the names of their attributes. -/
def outline (tokens : List Token) : List Token :=
  tokens.filterMap bare?

lemma nested_chars (unclosed : List String) (cs : List Char) (rest : List Token) :
    nested unclosed (cs.map char ++ rest) = nested unclosed rest := by
  induction cs with
  | nil => rfl
  | cons c cs ih => cases unclosed <;> exact ih

end Token

namespace Markup

lemma name_eq_input_iff (tag : Tag) : tag.name = "input" ↔ tag.isVoid = true := by
  cases tag <;> decide

mutual
/-- An element leaves open what was open before it. -/
lemma nested_tokens (unclosed : List String) (markup : Markup) (rest : List Token) :
    Token.nested unclosed (markup.tokens ++ rest) = Token.nested unclosed rest := by
  match markup with
  | text content =>
    rw [tokens]
    exact Token.nested_chars unclosed _ rest
  | element tag attributes children =>
    simp only [tokens, List.cons_append, Token.nested, name_eq_input_iff]
    split
    · rfl
    · rw [List.append_assoc, nested_tokensAll]
      simp [Token.nested]

lemma nested_tokensAll (unclosed : List String) (items : List Markup) (rest : List Token) :
    Token.nested unclosed (items.flatMap tokens ++ rest) = Token.nested unclosed rest := by
  match items with
  | [] => rfl
  | item :: items =>
    rw [List.flatMap_cons, List.append_assoc, nested_tokens unclosed item,
      nested_tokensAll unclosed items]
end

mutual
/-- Values hold no character that means something in markup. -/
lemma value_of_mem_tokens {tag : String} {attributes : List (String × String)} (markup : Markup)
    (h : .opening tag attributes ∈ markup.tokens) :
    ∀ attr ∈ attributes, ∀ c ∈ attr.2.toList, c ≠ '<' ∧ c ≠ '>' ∧ c ≠ '"' := by
  match markup with
  | text content =>
    rw [tokens] at h
    obtain ⟨c, -, hc⟩ := List.mem_map.mp h
    cases hc
  | element tag' attributes' children =>
    rw [tokens] at h
    rcases List.mem_cons.mp h with heq | h
    · cases heq
      intro attr hattr c hc
      obtain ⟨pair, -, rfl⟩ := List.mem_map.mp hattr
      rw [Scanner.escaped, Text.toList_escape] at hc
      exact Text.ne_of_mem_escapeChars hc
    · split at h
      · cases h
      · rcases List.mem_append.mp h with h | h
        · exact value_of_mem_tokensAll children h
        · cases List.mem_singleton.mp h

lemma value_of_mem_tokensAll {tag : String} {attributes : List (String × String)}
    (items : List Markup) (h : .opening tag attributes ∈ items.flatMap tokens) :
    ∀ attr ∈ attributes, ∀ c ∈ attr.2.toList, c ≠ '<' ∧ c ≠ '>' ∧ c ≠ '"' := by
  match items with
  | [] => cases h
  | item :: items =>
    rw [List.flatMap_cons] at h
    rcases List.mem_append.mp h with h | h
    · exact value_of_mem_tokens item h
    · exact value_of_mem_tokensAll items h
end

/-! ### Outlines of markup -/

/-- The tags that are read from markup. -/
def outline (markup : Markup) : List Token :=
  Token.outline markup.tokens

@[simp] lemma outline_text (content : String) : (text content).outline = [] :=
  filterMap_tokens_text (fun _ => rfl) content

@[simp] lemma outline_element (tag : Tag) (attributes : List (String × String))
    (children : List Markup) :
    (element tag attributes children).outline
      = .opening tag.name (attributes.map fun attr => (attr.1, ""))
        :: if tag.isVoid then [] else children.flatMap outline ++ [.closing tag.name] := by
  have hnames : (attributes.map Scanner.escaped).map (fun attr => (attr.1, ""))
      = attributes.map fun attr => (attr.1, "") := by
    rw [List.map_map]
    rfl
  rw [outline, Token.outline, filterMap_tokens_element]
  simp only [Token.bare?, hnames]
  rfl

@[simp] lemma outline_styledSpan (css content : String) :
    (styledSpan css content).outline = [.opening "span" [("style", "")], .closing "span"] := by
  simp [styledSpan, Tag.isVoid, Tag.name]

end Markup

/-! ### Shapes -/

/-- A text that may be missing, made blank. -/
def blank (text : Option String) : Option String :=
  text.map fun _ => ""

def SwipeAction.shape (action : SwipeAction) : SwipeAction :=
  { label := "", background := "", action := blank action.action }

/-- What a widget is, without its texts and numbers. -/
def Widget.shape : Widget → Widget
  | screen title _ _ => screen (blank title) 0 0
  | page title => page (blank title)
  | tabBar => tabBar
  | tab _ _ _ active => tab "" "" "" active
  | stack direction _ _ => stack direction 0 0
  | grid columns rows _ => grid (columns.map fun _ => "") (rows.map fun _ => "") 0
  | flex direction wrap _ => flex direction wrap 0
  | overlay => overlay
  | card header footer _ background => card (blank header) (blank footer) 0 (blank background)
  | collection _ => collection 0
  | collectionItem _ => collectionItem 0
  | emptyView => emptyView
  | swipe left right => swipe (left.map SwipeAction.shape) (right.map SwipeAction.shape)
  | text _ decoration align => text "" (blank decoration) (blank align)
  | icon _ _ _ => icon "" "" 0
  | button _ glyph => button "" (blank glyph)
  | fab label _ => fab (blank label) ""
  | textField label hint _ helper error secure multiline =>
    textField (blank label) (blank hint) "" (blank helper) (blank error) secure multiline
  | picker label selectedLabel _ disabled => picker (blank label) (blank selectedLabel) 0 disabled
  | dateTime label _ mode => dateTime (blank label) "" mode
  | toggle label on style => toggle (blank label) on style
  | radioGroup label => radioGroup (blank label)
  | radio _ selected => radio "" selected
  | popup _ title => popup "" (blank title)
  | snackbar _ actionLabel => snackbar "" (blank actionLabel)
  | placeholder _ => placeholder ""
  | missing _ reason => missing "" reason

/-- What kind an interaction is. -/
def Interaction.shape : Interaction → Interaction
  | selectTab _ => selectTab ""
  | invoke _ fromPopupFooter => invoke "" fromPopupFooter
  | closePopup => closePopup
  | dismissSnackbar => dismissSnackbar
  | snackbarAction _ => snackbarAction none
  | cyclePicker _ _ _ => cyclePicker (.local "") [] none
  | toggle _ _ _ => toggle (.local "") false none
  | selectRadio _ _ => selectRadio (.local "") .null
  | editText _ => editText (.local "")

/-- A look without anything to see. -/
def Attributes.blank : Attributes :=
  { platform := .android
    background := ""
    foreground := ""
    border := none
    cornerRadius := 0
    shadow := none
    backdropFilter := none
    typography := { family := "", size := 0, weight := 0, lineHeight := 0, letterSpacing := 0 } }

namespace Node

mutual
/-- The tree without its texts and numbers: which widgets and interactions it has, and which of their
parts are there. -/
def shape : Node → Node
  | ⟨_, widget, attributes, children, interaction, cell⟩ =>
    ⟨"", widget.shape, attributes.map fun _ => .blank, shapeAll children,
      interaction.map Interaction.shape, cell.map fun _ => ⟨0, 0⟩⟩

def shapeAll : List Node → List Node
  | [] => []
  | node :: nodes => shape node :: shapeAll nodes
end

@[simp] lemma shapeAll_eq_map (nodes : List Node) : shapeAll nodes = nodes.map shape := by
  induction nodes with
  | nil => rfl
  | cons node nodes ih => simp [shapeAll, ih]

/-! ### Outlines of widgets -/

lemma declaration_ne_empty (property value : String) : declaration property value ≠ "" := by
  simp [declaration]

lemma style_eq_empty_iff (node : Node) (css : String) :
    node.style css = "" ↔ node.attributes = none ∧ node.cell = none ∧ css = "" := by
  have hlook : ∀ attributes : Attributes, attributes.css ≠ "" ∧ attributes.textCss ≠ "" := by
    simp [Attributes.css, Attributes.textCss, declaration_ne_empty]
  have hcell : cellCss node.cell = "" ↔ node.cell = none := by
    cases node.cell <;> simp [cellCss, declaration_ne_empty]
  cases hattributes : node.attributes with
  | none => simp [style, hattributes, hcell]
  | some attributes =>
    simp only [style, hattributes]
    split <;> simp [hlook]

lemma widgetCss_shape (widget : Widget) : widgetCss widget.shape = "" ↔ widgetCss widget = "" := by
  -- the rest of the widgets declare something in any case
  cases widget with
  | collectionItem index => exact Iff.rfl
  | text content decoration align =>
    unfold widgetCss
    cases decoration <;> cases align <;>
      simp [Widget.shape, blank, optionalDeclaration, declaration_ne_empty]
  | _ =>
    unfold widgetCss
    simp [Widget.shape, declaration_ne_empty, lengthDeclaration]

lemma widgetTag_shape (widget : Widget) : widgetTag widget.shape = widgetTag widget := by
  cases widget <;> rfl

lemma outline_element_shape (tag : Tag) (node : Node) {css css' : String}
    (hcss : css' = "" ↔ css = "") {content content' : List Markup}
    (h : content'.flatMap Markup.outline = content.flatMap Markup.outline) :
    (element tag node.shape css' content').outline = (element tag node css content).outline := by
  have hstyle : node.shape.style css' = "" ↔ node.style css = "" := by
    rw [style_eq_empty_iff, style_eq_empty_iff, hcss]
    cases node
    simp [shape]
  have hactive : node.shape.interaction.isSome = node.interaction.isSome := by
    cases node
    simp [shape]
  simp only [element, Markup.outline_element, h, hactive, hstyle]
  congr 2
  split <;> split <;> rfl

lemma outline_optionalSpan (css : String) (content : Option String) :
    (optionalSpan css (blank content)).flatMap Markup.outline
      = (optionalSpan css content).flatMap Markup.outline := by
  cases content <;> simp [blank, optionalSpan]

lemma outline_swipeSide (actions : List SwipeAction) :
    (swipeSide (actions.map SwipeAction.shape)).flatMap Markup.outline
      = (swipeSide actions).flatMap Markup.outline := by
  simp only [swipeSide, List.isEmpty_map]
  split
  · rfl
  · simp [List.flatMap_map, Markup.outline_element]

lemma outline_fieldControl (hint : Option String) (value : String) (secure multiline : Bool) :
    (fieldControl (blank hint) "" secure multiline).outline
      = (fieldControl hint value secure multiline).outline := by
  cases multiline <;> simp [fieldControl]

lemma outline_fieldNote (helper error : Option String) :
    (fieldNote (blank helper) (blank error)).flatMap Markup.outline
      = (fieldNote helper error).flatMap Markup.outline := by
  cases error <;> cases helper <;> simp [fieldNote, blank]

lemma outline_content {drawn drawn' : List Markup}
    (h : drawn'.flatMap Markup.outline = drawn.flatMap Markup.outline) (widget : Widget) :
    (content drawn' widget.shape).flatMap Markup.outline
      = (content drawn widget).flatMap Markup.outline := by
  cases widget with
  | fab label => cases label <;> simp [content, Widget.shape, blank]
  | radioGroup label => cases label <;> simp [content, Widget.shape, blank, h]
  | textField label hint value helper error secure multiline =>
    simp only [content, Widget.shape, List.flatMap_append, List.flatMap_cons, outline_optionalSpan,
      outline_fieldNote, outline_fieldControl hint value]
  | _ => simp [content, Widget.shape, h, outline_optionalSpan, outline_swipeSide]

/-! ### Outlines of nodes -/

lemma outline_flatButton (node : Node) (css css' : String) :
    (flatButton node.shape css').outline = (flatButton node css).outline := by
  obtain ⟨id, widget, attributes, children, interaction, cell⟩ := node
  refine outline_element_shape .button ⟨id, widget, none, [], interaction, cell⟩ ?_ ?_
  · simp
  · cases widget <;> simp [shape, Widget.shape]

lemma closesPopup_shape (node : Node) : node.shape.closesPopup = node.closesPopup := by
  obtain ⟨id, widget, attributes, children, interaction, cell⟩ := node
  cases interaction with
  | none => rfl
  | some interaction => cases interaction <;> rfl

lemma widget_shape (node : Node) : node.shape.widget = node.widget.shape := by
  cases node
  rfl

lemma children_shape (node : Node) : node.shape.children = node.children.map shape := by
  cases node
  simp [shape]

lemma drawsButtons_shape (widget : Widget) : drawsButtons widget.shape = drawsButtons widget := by
  cases widget <;> rfl

/-- The tags of a tree, with the names of their attributes, are those of its shape. -/
lemma outline_shape (node : Node) : node.shape.markup.outline = node.markup.outline := by
  induction node using induct with
  | step node ih =>
    have hcss : widgetCss node.shape.widget = "" ↔ widgetCss node.widget = "" := by
      rw [widget_shape]
      exact widgetCss_shape node.widget
    rcases drawsButtons_cases node.widget with
      ⟨popupId, title, hwidget⟩ | ⟨message, actionLabel, hwidget⟩ | hwidget
    · have hwidget' : node.shape.widget = .popup "" (blank title) := by
        rw [widget_shape, hwidget, Widget.shape]
      obtain ⟨scrimCss, cardCss, hmarkup⟩ := markup_popup hwidget
      obtain ⟨scrimCss', cardCss', hmarkup'⟩ := markup_popup hwidget'
      have hcloses : closesPopup ∘ shape = closesPopup := funext closesPopup_shape
      have hkept : (node.children.eraseP closesPopup).flatMap (·.shape.markup.outline)
          = (node.children.eraseP closesPopup).flatMap (·.markup.outline) :=
        List.flatMap_congr fun child hchild => ih child (List.mem_of_mem_eraseP hchild)
      have hflat (child : Node) (css : String) := outline_flatButton child css css
      rw [hmarkup, hmarkup', children_shape, List.eraseP_map, List.find?_map, hcloses]
      cases title <;> cases node.children.find? closesPopup <;>
        simp [blank, List.flatMap_map, hkept, hflat]
    · have hwidget' : node.shape.widget = .snackbar "" (blank actionLabel) := by
        rw [widget_shape, hwidget, Widget.shape]
      have hbuttons : node.children.flatMap (fun child => (snackbarButton child.shape).outline)
          = node.children.flatMap fun child => (snackbarButton child).outline :=
        List.flatMap_congr fun child _ => outline_flatButton child _ _
      rw [markup_snackbar hwidget, markup_snackbar hwidget']
      refine outline_element_shape .div node hcss ?_
      simpa [children_shape, List.flatMap_map] using hbuttons
    · have hwidget' : drawsButtons node.shape.widget = false := by
        rw [widget_shape, drawsButtons_shape, hwidget]
      have hdrawn : (node.shape.children.map markup).flatMap Markup.outline
          = (node.children.map markup).flatMap Markup.outline := by
        simp only [children_shape, List.flatMap_map]
        exact List.flatMap_congr ih
      have hcontent := outline_content hdrawn node.widget
      rw [← widget_shape] at hcontent
      rw [markup_of_drawsButtons hwidget, markup_of_drawsButtons hwidget',
        outline_element_shape _ node hcss hcontent, widget_shape, widgetTag_shape]

/-! ### Written trees -/

/-- Whatever texts and numbers a tree holds, its written markup can be split into tags that are closed
in order, no value has a bracket or a quote, and the tags with the names of their attributes are the
same for all trees of one shape. -/
theorem outline_html (node : Node) :
    ∃ tokens, Token.scan? node.html = some tokens
      ∧ Token.nested [] tokens = true
      ∧ (∀ tag attributes, .opening tag attributes ∈ tokens →
          ∀ attr ∈ attributes, ∀ c ∈ attr.2.toList, c ≠ '<' ∧ c ≠ '>' ∧ c ≠ '"')
      ∧ ∀ other : Node, other.shape = node.shape →
          ∃ tokens', Token.scan? other.html = some tokens'
            ∧ Token.outline tokens' = Token.outline tokens := by
  refine ⟨node.markup.tokens, scan?_html node, ?_, ?_, ?_⟩
  · have hnested := Markup.nested_tokens [] node.markup []
    rwa [List.append_nil] at hnested
  · exact fun tag attributes h => Markup.value_of_mem_tokens node.markup h
  · intro other hshape
    refine ⟨other.markup.tokens, scan?_html other, ?_⟩
    calc other.markup.outline
      _ = other.shape.markup.outline := (outline_shape other).symm
      _ = node.shape.markup.outline := by rw [hshape]
      _ = node.markup.outline := outline_shape node

/-- A label keeps its tags when its texts are written to look like tags. -/
theorem outline_html_label :
    ∃ tokens tokens', Token.scan? (label "root/0" "Hi" none).html = some tokens
      ∧ Token.nested [] tokens = true
      ∧ Token.scan? (label "\"><b>" "</span><script>" none).html = some tokens'
      ∧ Token.outline tokens' = Token.outline tokens := by
  obtain ⟨tokens, hscan, hnested, -, hother⟩ := outline_html (label "root/0" "Hi" none)
  obtain ⟨tokens', hscan', houtline⟩ := hother (label "\"><b>" "</span><script>" none) rfl
  exact ⟨tokens, tokens', hscan, hnested, hscan', houtline⟩

end Node

end Wireframe
