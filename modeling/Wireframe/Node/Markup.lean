import Wireframe.Markup
import Wireframe.Text.Split
import Wireframe.Node.Basic

/-!
# Markup of node trees

Every node becomes one element that carries its id, so that a click can be traced back to the node.
Styles are inline. A popup is drawn as a scrim around a card, and its close button comes last inside
the card; the buttons of popups and snackbars are flat.
-/

namespace Wireframe.Node

def scrimColor : String := "rgba(15, 23, 42, 0.35)"

def popupShadow : String := "0 15px 45px rgba(15, 23, 42, 0.2)"

def snackbarShadow : String := "0 10px 30px rgba(15, 23, 42, 0.3)"

def snackbarBackground : String := "#111827"

def snackbarForeground : String := "#f9fafb"

def snackbarActionColor : String := "#38bdf8"

def mutedColor : String := "#6b7280"

def alertColor : String := "#b3261e"

/-! ### Elements of nodes -/

/-- The declarations of a cell; grid lines count from one. -/
def cellCss : Option GridCell → String
  | some cell =>
    declaration "grid-row" (Nat.repr (cell.row + 1).toNat)
      ++ declaration "grid-column" (Nat.repr (cell.column + 1).toNat)
  | none => ""

/-- The style of a node's element: its attributes, its cell, and what its widget adds. -/
def style (node : Node) (css : String) : String :=
  (match node.attributes with
    | some attributes => if node.widget.paintsSurface then attributes.css else attributes.textCss
    | none => "")
    ++ cellCss node.cell ++ css

/-- The element of a node. -/
def element (tag : Tag) (node : Node) (css : String) (content : List Markup) : Markup :=
  let style := node.style css
  .element tag
    ([("data-wv-node", node.id), ("data-wv-kind", node.widget.name)]
      ++ (if node.interaction.isSome then [("data-wv-interactive", "true")] else [])
      ++ (if style = "" then [] else [("style", style)]))
    content

/-- A span for a text that may be missing. -/
def optionalSpan (css : String) : Option String → List Markup
  | some content => [.styledSpan css content]
  | none => []

/-- One side of a swipe container. -/
def swipeSide (actions : List SwipeAction) : List Markup :=
  if actions.isEmpty then []
  else
    [.element .div [("style", "display:flex;width:120px;opacity:0.8;")] <|
      actions.map fun action =>
        .element .div
          [("style", declaration "background" action.background
            ++ "color:white;display:flex;align-items:center;justify-content:center;flex:1;"
            ++ "font-size:12px;")]
          [.text action.label]]

/-- A button without the attributes of its design system; it shows its text, or else its glyph. -/
def flatButton (node : Node) (css : String) : Markup :=
  element .button { node with attributes := none, children := [] }
    ("border:none;background:transparent;cursor:pointer;" ++ css)
    (match node.widget with
      | .button caption glyph => [.text (if caption = "" then glyph.getD "" else caption)]
      | _ => [])

def flexDirection : Direction → String
  | .vertical => "column"
  | .horizontal => "row"

/-- Whether activating a node closes the popup. -/
def closesPopup (node : Node) : Bool :=
  match node.interaction with
  | some .closePopup => true
  | _ => false

/-- The declarations that a widget adds to its element. -/
def widgetCss : Widget → String
  | .screen _ width height =>
    "position:relative;overflow:hidden;display:flex;flex-direction:column;"
      ++ declaration "width" (Nat.repr width.toNat ++ "px")
      ++ declaration "height" (Nat.repr height.toNat ++ "px")
  | .page _ => "flex:1 1 auto;overflow-y:auto;display:flex;flex-direction:column;"
  | .tabBar => "display:flex;flex:0 0 auto;justify-content:space-around;padding:8px 0;"
  | .tab _ _ _ active =>
    "display:flex;flex-direction:column;align-items:center;border:none;background:transparent;"
      ++ "color:inherit;cursor:pointer;"
      ++ declaration "opacity" (if active then "1" else "0.6")
      ++ declaration "font-weight" (if active then "600" else "400")
  | .stack direction gap padding =>
    "display:flex;" ++ declaration "flex-direction" (flexDirection direction)
      ++ lengthDeclaration "gap" gap ++ lengthDeclaration "padding" padding
  | .grid columns rows gap =>
    "display:grid;" ++ lengthDeclaration "gap" gap
      ++ (if rows.isEmpty then "" else declaration "grid-template-rows" (" ".intercalate rows))
      ++ (if columns.isEmpty then ""
        else declaration "grid-template-columns" (" ".intercalate columns))
  | .flex direction wrap gap =>
    "display:flex;" ++ declaration "flex-direction" (flexDirection direction)
      ++ declaration "flex-wrap" (if wrap then "wrap" else "nowrap")
      ++ lengthDeclaration "gap" gap
  | .overlay => "position:relative;"
  | .card _ _ padding background =>
    "display:flex;flex-direction:column;gap:12px;" ++ lengthDeclaration "padding" padding
      ++ optionalDeclaration "background" background
  | .collection _ => "display:flex;flex-direction:column;gap:8px;"
  | .collectionItem _ => ""
  | .emptyView => "opacity:0.6;text-align:center;padding:24px;"
  | .swipe _ _ => "display:flex;align-items:stretch;overflow:hidden;"
  | .text _ decoration align =>
    optionalDeclaration "text-decoration"
        (decoration.map fun name => if name = "strikethrough" then "line-through" else name)
      ++ optionalDeclaration "text-align" align
  | .icon _ _ size =>
    lengthDeclaration "font-size" size ++ "line-height:1;background:transparent;"
  | .button _ _ =>
    "display:inline-flex;align-items:center;gap:8px;padding:10px 24px;cursor:pointer;"
  | .fab _ _ =>
    "position:absolute;right:16px;bottom:80px;display:inline-flex;align-items:center;gap:8px;"
      ++ "padding:16px;border-radius:16px;cursor:pointer;z-index:20;"
  | .textField .. => "display:flex;flex-direction:column;gap:4px;padding:8px 12px;"
  | .picker _ _ _ disabled =>
    "display:flex;justify-content:space-between;align-items:center;padding:12px;"
      ++ declaration "cursor" (if disabled then "not-allowed" else "pointer")
      ++ declaration "opacity" (if disabled then "0.5" else "1")
  | .dateTime .. => "display:flex;justify-content:space-between;padding:12px;"
  | .toggle .. =>
    "display:flex;align-items:center;justify-content:space-between;gap:12px;cursor:pointer;"
      ++ "background:transparent;"
  | .radioGroup _ =>
    "display:flex;flex-direction:column;gap:8px;border:none;padding:0;margin:0;"
  | .radio _ _ =>
    "display:flex;align-items:center;gap:8px;cursor:pointer;background:transparent;"
  | .popup _ _ =>
    "border-radius:16px;width:min(420px, 90%);padding:24px;display:flex;flex-direction:column;"
      ++ "gap:16px;" ++ declaration "box-shadow" popupShadow
  | .snackbar _ _ =>
    "position:absolute;left:50%;bottom:24px;transform:translateX(-50%);"
      ++ declaration "background" snackbarBackground ++ declaration "color" snackbarForeground
      ++ "border-radius:9999px;padding:12px 20px;display:flex;align-items:center;gap:12px;"
      ++ declaration "box-shadow" snackbarShadow ++ "z-index:40;"
  | .placeholder _ =>
    declaration "border" ("1px dashed " ++ mutedColor) ++ "padding:8px;"
      ++ declaration "color" mutedColor ++ "font-size:12px;"
  | .missing _ _ =>
    declaration "border" ("1px dashed " ++ alertColor) ++ "padding:8px;"
      ++ declaration "color" alertColor ++ "font-size:12px;"

/-- The element's tag. -/
def widgetTag : Widget → Tag
  | .page _ => .main
  | .tabBar => .nav
  | .tab .. => .button
  | .card .. => .region
  | .text .. => .span
  | .icon .. => .span
  | .button .. => .button
  | .fab .. => .button
  | .textField .. => .label
  | .radioGroup _ => .fieldset
  | _ => .div

/-- The control inside a text field. -/
def fieldControl (hint : Option String) (value : String) (secure multiline : Bool) : Markup :=
  let css := "border:none;background:transparent;color:inherit;font:inherit;"
  if multiline then
    .element .textarea
      [("placeholder", hint.getD ""), ("style", css ++ "min-height:80px;")] [.text value]
  else
    .element .input
      [("type", if secure then "password" else "text"), ("placeholder", hint.getD ""),
        ("value", value), ("style", css)] []

/-- The line below a text field: the error, or else the help. -/
def fieldNote (helper error : Option String) : List Markup :=
  match error, helper with
  | some error, _ => [.styledSpan ("font-size:12px;" ++ declaration "color" alertColor) error]
  | none, some helper =>
    [.styledSpan ("font-size:12px;" ++ declaration "color" mutedColor) helper]
  | none, none => []

/-- The mark of a toggle. -/
def toggleMark : ToggleStyle → Bool → String
  | .switch, true => "●━"
  | .switch, false => "━○"
  | .checkbox, true => "☑"
  | .checkbox, false => "☐"

/-- What a widget draws around its children, which are drawn already. Widgets that have no place
for children leave them out. -/
def content (children : List Markup) : Widget → List Markup
  | .screen title _ _ =>
    optionalSpan "display:block;padding:12px 16px;font-weight:600;font-size:18px;" title
      ++ children
  | .page title => optionalSpan "display:block;padding:8px 16px;font-size:22px;" title ++ children
  | .tab _ title glyph _ =>
    [.styledSpan "font-size:20px;" glyph, .styledSpan "font-size:12px;" title]
  | .card header footer _ _ =>
    optionalSpan "font-weight:600;font-size:16px;" header ++ children
      ++ optionalSpan "font-size:12px;opacity:0.7;" footer
  | .swipe left right =>
    swipeSide left ++ [.element .div [("style", "flex:1 1 auto;")] children] ++ swipeSide right
  | .text text _ _ => [.text text]
  | .icon name glyph _ => [.element .span [("aria-label", name)] [.text glyph]]
  | .button text glyph => optionalSpan "" glyph ++ [.text text]
  | .fab label glyph =>
    .styledSpan "font-size:20px;" glyph :: (label.toList.map Markup.text)
  | .textField label hint value helper error secure multiline =>
    optionalSpan "font-size:12px;" label
      ++ fieldControl hint value secure multiline :: fieldNote helper error
  | .picker label selectedLabel _ _ =>
    let caption := (match label with
      | some label => label ++ ": "
      | none => "") ++ selectedLabel.getD "Select"
    [.styledSpan "" caption,
      .styledSpan "font-size:10px;text-transform:uppercase;letter-spacing:1px;" "Cycle"]
  | .dateTime label value mode =>
    let usual := match mode with
      | .date => "Date"
      | .time => "Time"
    [.styledSpan "" (label.getD usual), .styledSpan "font-weight:600;" value]
  | .toggle label on style =>
    optionalSpan "" label ++ [.styledSpan "font-size:18px;" (toggleMark style on)]
  | .radioGroup label =>
    (label.toList.map fun label => .element .legend [] [.text label]) ++ children
  | .radio label selected => [.styledSpan "" (if selected then "◉" else "○"), .text label]
  | .placeholder typeName => [.text ("Unsupported component: " ++ typeName)]
  | .missing id reason =>
    let what := match reason with
      | .notFound => "Component not found"
      | .tooDeep => "Component nesting too deep"
    [.text (what ++ ": " ++ id)]
  | _ => children

/-- A popup: a scrim that closes it when it is clicked, and a card that shields its content from the
scrim. The first child that closes the popup is drawn last; `drawn` are the children with their
markup. -/
def popupMarkup (node : Node) (title : Option String) (drawn : List (Node × Markup)) : Markup :=
  let card := (match node.attributes with
    | some attributes => attributes.css
    | none => "") ++ widgetCss node.widget
  let close := drawn.find? fun (child, _) => child.closesPopup
  .element .div
    [("data-wv-node", node.id), ("data-wv-kind", node.widget.name),
      ("data-wv-interactive", "true"),
      ("style", "position:absolute;inset:0;" ++ declaration "background" scrimColor
        ++ "display:flex;align-items:center;justify-content:center;z-index:30;")]
    [.element .div
      [("data-wv-node", node.id ++ "/card"), ("data-wv-stop", "true"), ("style", card)] <|
      (title.toList.map fun title =>
        .element .heading [("style", "margin:0;font-size:20px;")] [.text title])
      ++ (drawn.eraseP fun (child, _) => child.closesPopup).map (·.2)
      ++ (close.toList.map fun (child, _) =>
        flatButton child "align-self:flex-end;color:#2563eb;")]

/-- The buttons of a snackbar. -/
def snackbarButton (child : Node) : Markup :=
  flatButton child <|
    if Text.endsWith "/action" child.id then
      declaration "color" snackbarActionColor ++ "font-weight:600;"
    else "color:inherit;"

/-- The markup of a node whose children are drawn already. -/
def markupWith (node : Node) (drawn : List Markup) : Markup :=
  match node.widget with
  | .popup _ title => popupMarkup node title (node.children.zip drawn)
  | .snackbar message _ =>
    element .div node (widgetCss node.widget)
      (.text message :: node.children.map snackbarButton)
  | widget => element (widgetTag widget) node (widgetCss widget) (content drawn widget)

mutual
/-- The markup of a node and everything below it. -/
def markup : Node → Markup
  | ⟨id, widget, attributes, children, interaction, cell⟩ =>
    markupWith ⟨id, widget, attributes, children, interaction, cell⟩ (markupAll children)

def markupAll : List Node → List Markup
  | [] => []
  | node :: nodes => markup node :: markupAll nodes
end

/-- The written markup of a node and everything below it. -/
def html (node : Node) : String :=
  node.markup.print

@[simp] theorem markupAll_eq_map (nodes : List Node) : markupAll nodes = nodes.map markup := by
  induction nodes with
  | nil => rfl
  | cons node nodes ih => simp [markupAll, ih]

theorem markup_eq (node : Node) :
    node.markup = markupWith node (node.children.map markup) := by
  cases node
  simp [markup]

end Wireframe.Node
