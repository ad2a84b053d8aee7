import Wireframe.Node.Basic

/-!
# Node trees as JSON

The form in which a screen is handed to tools: tagged objects for widgets and interactions. Parts of
a node that are missing are left out, missing fields of a widget are null.
-/

namespace Wireframe

def Direction.name : Direction → String
  | vertical => "vertical"
  | horizontal => "horizontal"

def ToggleStyle.name : ToggleStyle → String
  | switch => "switch"
  | checkbox => "checkbox"

def DateTimeMode.name : DateTimeMode → String
  | date => "date"
  | time => "time"

def MissingReason.name : MissingReason → String
  | notFound => "notFound"
  | tooDeep => "tooDeep"

def SwipeAction.toJson (swipe : SwipeAction) : Json :=
  .object <|
    [("label", .string swipe.label), ("background", .string swipe.background)]
      ++ Json.field? "action" (swipe.action.map .string)

def Widget.toJson : Widget → Json
  | screen title width height =>
    .tagged "screen"
      [("title", .ofText? title), ("width", .natural width.toNat),
        ("height", .natural height.toNat)]
  | page title => .tagged "page" [("title", .ofText? title)]
  | tabBar => .tagged "tabBar" []
  | tab id title glyph active =>
    .tagged "tab"
      [("id", .string id), ("title", .string title), ("glyph", .string glyph),
        ("active", .bool active)]
  | stack direction gap padding =>
    .tagged "stack"
      [("direction", .string direction.name), ("gap", .ofSingle gap),
        ("padding", .ofSingle padding)]
  | grid columns rows gap =>
    .tagged "grid"
      [("columns", .ofTexts columns), ("rows", .ofTexts rows), ("gap", .ofSingle gap)]
  | flex direction wrap gap =>
    .tagged "flex"
      [("direction", .string direction.name), ("wrap", .bool wrap), ("gap", .ofSingle gap)]
  | overlay => .tagged "overlay" []
  | card header footer padding background =>
    .tagged "card"
      [("header", .ofText? header), ("footer", .ofText? footer), ("padding", .ofSingle padding),
        ("background", .ofText? background)]
  | collection count => .tagged "collection" [("count", .natural count)]
  | collectionItem index => .tagged "collectionItem" [("index", .natural index)]
  | emptyView => .tagged "emptyView" []
  | swipe left right =>
    .tagged "swipe"
      [("left", .array (left.map SwipeAction.toJson)),
        ("right", .array (right.map SwipeAction.toJson))]
  | text content decoration align =>
    .tagged "text"
      [("text", .string content), ("decoration", .ofText? decoration), ("align", .ofText? align)]
  | icon name glyph size =>
    .tagged "icon" [("name", .string name), ("glyph", .string glyph), ("size", .ofSingle size)]
  | button caption glyph =>
    .tagged "button" [("text", .string caption), ("glyph", .ofText? glyph)]
  | fab label glyph => .tagged "fab" [("label", .ofText? label), ("glyph", .string glyph)]
  | textField label hint value helper error secure multiline =>
    .tagged "textField"
      [("label", .ofText? label), ("placeholder", .ofText? hint), ("value", .string value),
        ("helper", .ofText? helper), ("error", .ofText? error), ("secure", .bool secure),
        ("multiline", .bool multiline)]
  | picker label selectedLabel optionCount disabled =>
    .tagged "picker"
      [("label", .ofText? label), ("selectedLabel", .ofText? selectedLabel),
        ("optionCount", .natural optionCount), ("disabled", .bool disabled)]
  | dateTime label value mode =>
    .tagged "dateTime"
      [("label", .ofText? label), ("value", .string value), ("mode", .string mode.name)]
  | toggle label on style =>
    .tagged "toggle"
      [("label", .ofText? label), ("on", .bool on), ("style", .string style.name)]
  | radioGroup label => .tagged "radioGroup" [("label", .ofText? label)]
  | radio label selected =>
    .tagged "radio" [("label", .string label), ("selected", .bool selected)]
  | popup id title => .tagged "popup" [("id", .string id), ("title", .ofText? title)]
  | snackbar message actionLabel =>
    .tagged "snackbar"
      [("message", .string message), ("actionLabel", .ofText? actionLabel)]
  | placeholder typeName => .tagged "placeholder" [("typeName", .string typeName)]
  | missing id reason =>
    .tagged "missing" [("id", .string id), ("reason", .string reason.name)]

def Target.toJson : Target → Json
  | state path => .object [("kind", .string "state"), ("key", .string path)]
  | .local id => .object [("kind", .string "local"), ("key", .string id)]

def Interaction.toJson : Interaction → Json
  | selectTab tab => .tagged "selectTab" [("tab", .string tab)]
  | invoke action fromPopupFooter =>
    .tagged "invoke"
      [("action", .string action), ("fromPopupFooter", .bool fromPopupFooter)]
  | closePopup => .tagged "closePopup" []
  | dismissSnackbar => .tagged "dismissSnackbar" []
  | snackbarAction action => .tagged "snackbarAction" [("action", .ofText? action)]
  | cyclePicker target options current =>
    .tagged "cyclePicker"
      [("target", target.toJson), ("options", .array options),
        ("current", (current.map Json.natural).getD .null)]
  | toggle target current followUp =>
    .tagged "toggle"
      [("target", target.toJson), ("current", .bool current), ("then", .ofText? followUp)]
  | selectRadio target value =>
    .tagged "selectRadio" [("target", target.toJson), ("value", value)]
  | editText target => .tagged "editText" [("target", target.toJson)]

def GridCell.toJson (cell : GridCell) : Json :=
  .object [("row", .natural cell.row.toNat), ("column", .natural cell.column.toNat)]

namespace Node

mutual
/-- The node and everything below it. -/
def toJson : Node → Json
  | ⟨id, widget, attributes, children, interaction, cell⟩ =>
    .object <|
      [("id", .string id), ("kind", widget.toJson)]
        ++ Json.field? "attrs" (attributes.map Attributes.toJson)
        ++ (match childrenToJson children with
          | [] => []
          | children => [("children", .array children)])
        ++ Json.field? "interaction" (interaction.map Interaction.toJson)
        ++ Json.field? "cell" (cell.map GridCell.toJson)

def childrenToJson : List Node → List Json
  | [] => []
  | node :: nodes => toJson node :: childrenToJson nodes
end

end Node

end Wireframe
