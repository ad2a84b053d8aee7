import Wireframe.Choice
import Wireframe.Icon
import Wireframe.Node.Basic

/-!
# Building nodes

Nodes of the controls that fill in something by themselves: symbols for the names of icons, buttons
that close what they stand on, interactions.
-/

namespace Wireframe

namespace SwipeAction

def defaultBackground : String := "#ef4444"

/-- Reads one action; a value that is no object is its label. -/
def ofJson : Json → SwipeAction
  | .object fields =>
    { label := (((Entries.get? fields "content").or (Entries.get? fields "text")).map
        Json.display).getD ""
      background := (Entries.string? fields "background").getD defaultBackground
      action := Entries.string? fields "action" }
  | other => { label := other.display, background := defaultBackground, action := none }

/-- Reads the actions of one side of a swipe container. -/
def list : Json → List SwipeAction
  | .array items => items.map ofJson
  | _ => []

end SwipeAction

namespace Node

/-- A text. The decoration `none` is no decoration. -/
def label (id text : String) (decoration : Option String) : Node :=
  { id, widget := .text text (decoration.filter fun name => name ≠ "" ∧ name ≠ "none") none }

/-- The size of an icon that does not say its own. -/
def defaultIconSize : Pixels := 24

def icon (id name : String) (size : Option Pixels) : Node :=
  { id, widget := .icon name (Icon.symbolOf name) (size.getD defaultIconSize) }

def button (id text : String) (icon : Option String) (interaction : Option Interaction) : Node :=
  { id, widget := .button text (icon.map Icon.symbolOf), interaction }

/-- A floating button; it shows a plus where it names no icon. -/
def fab (id : String) (label icon : Option String) (interaction : Option Interaction) : Node :=
  { id, widget := .fab label (Icon.symbolOf (icon.getD "add")), interaction }

/-- A picker. Without options it is disabled, and activating it does nothing. -/
def picker (id : String) (label : Option String) (choices : List Choice) (selected : Json)
    (target : Target) : Node :=
  let current := Choice.indexOf? choices selected
  { id
    widget := .picker label ((current.bind (choices[·]?)).map Choice.label) choices.length
      choices.isEmpty
    interaction :=
      if choices.isEmpty then none
      else some (.cyclePicker target (choices.map Choice.value) current) }

/-- A list between its header and its footer. Without items the empty view takes their place. -/
def collection (id : String) (header : Option Node) (items : List Node)
    (footer emptyView : Option Node) : Node :=
  { id
    widget := .collection items.length
    children := header.toList ++ (if items.isEmpty then emptyView.toList else items)
      ++ footer.toList }

/-- A popup with a close button. A click beside the popup closes it too. -/
def popup (id popupId : String) (title : Option String) (content : List Node)
    (footer : Option Node) : Node :=
  let close := button (id ++ "/close") "" (some "close") (some .closePopup)
  { id
    widget := .popup popupId title
    children := close :: (content ++ footer.toList)
    interaction := some .closePopup }

/-- A snackbar with a button to dismiss it, and one for its action if that has a label. -/
def snackbar (id message : String) (actionLabel action : Option String) : Node :=
  { id
    widget := .snackbar message actionLabel
    children :=
      (actionLabel.toList.map fun text =>
        button (id ++ "/action") text none (some (.snackbarAction action)))
      ++ [button (id ++ "/dismiss") "" (some "close") (some .dismissSnackbar)] }

/-- An entry of the tab bar with this id. -/
def tab (barId tabId title : String) (icon : Option String) (active : Bool) : Node :=
  { id := barId ++ "/" ++ tabId
    widget := .tab tabId title (Icon.symbolOf (icon.getD "home")) active
    interaction := some (.selectTab tabId) }

/-- The mark of something that cannot be drawn. -/
def missing (id reference : String) (reason : MissingReason) : Node :=
  { id, widget := .missing reference reason }

def placeholder (id typeName : String) : Node :=
  { id, widget := .placeholder typeName }

end Node

end Wireframe
