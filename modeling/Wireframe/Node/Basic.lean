import Wireframe.Style.Attributes

/-!
# The node tree

A rendered screen is a tree of nodes. Each has an id, draws a widget, and may do something when it
is activated. The ids are paths from the root of the screen, so that they stay the same from one
rendering of a state to the next.
-/

namespace Wireframe

/-- The main axis of a container. -/
inductive Direction where
  | vertical
  | horizontal
deriving DecidableEq, Repr

/-- The control that a toggle is drawn as. -/
inductive ToggleStyle where
  | switch
  | checkbox
deriving DecidableEq, Repr

/-- What a date or time field shows. -/
inductive DateTimeMode where
  | date
  | time
deriving DecidableEq, Repr

/-- Why a component could not be drawn. -/
inductive MissingReason where
  /-- No component has the id. -/
  | notFound
  /-- The nesting is too deep, most often because of a cycle. -/
  | tooDeep
deriving DecidableEq, Repr

/-- A button that is uncovered by swiping. -/
structure SwipeAction where
  label : String
  background : String
  action : Option String
deriving DecidableEq, Repr

/-- What a node draws. -/
inductive Widget where
  | screen (title : Option String) (width height : UInt32)
  | page (title : Option String)
  | tabBar
  | tab (id title glyph : String) (active : Bool)
  | stack (direction : Direction) (gap padding : Pixels)
  | grid (columns rows : List String) (gap : Pixels)
  | flex (direction : Direction) (wrap : Bool) (gap : Pixels)
  /-- Children placed freely over each other. -/
  | overlay
  | card (header footer : Option String) (padding : Pixels) (background : Option String)
  | collection (count : Nat)
  | collectionItem (index : Nat)
  | emptyView
  | swipe (left right : List SwipeAction)
  | text (text : String) (decoration align : Option String)
  | icon (name glyph : String) (size : Pixels)
  | button (text : String) (glyph : Option String)
  | fab (label : Option String) (glyph : String)
  | textField (label placeholder : Option String) (value : String) (helper error : Option String)
      (secure multiline : Bool)
  | picker (label selectedLabel : Option String) (optionCount : Nat) (disabled : Bool)
  | dateTime (label : Option String) (value : String) (mode : DateTimeMode)
  | toggle (label : Option String) (on : Bool) (style : ToggleStyle)
  | radioGroup (label : Option String)
  | radio (label : String) (selected : Bool)
  | popup (id : String) (title : Option String)
  | snackbar (message : String) (actionLabel : Option String)
  /-- A dashed box for a type that cannot be drawn. -/
  | placeholder (typeName : String)
  | missing (id : String) (reason : MissingReason)
deriving BEq

namespace Widget

def name : Widget → String
  | screen .. => "screen"
  | page .. => "page"
  | tabBar => "tab-bar"
  | tab .. => "tab"
  | stack .. => "stack"
  | grid .. => "grid"
  | flex .. => "flex"
  | overlay => "overlay"
  | card .. => "card"
  | collection .. => "collection"
  | collectionItem .. => "collection-item"
  | emptyView => "empty-view"
  | swipe .. => "swipe"
  | text .. => "text"
  | icon .. => "icon"
  | button .. => "button"
  | fab .. => "fab"
  | textField .. => "text-field"
  | picker .. => "picker"
  | dateTime .. => "date-time"
  | toggle .. => "toggle"
  | radioGroup .. => "radio-group"
  | radio .. => "radio"
  | popup .. => "popup"
  | snackbar .. => "snackbar"
  | placeholder .. => "placeholder"
  | missing .. => "missing"

/-- Whether the widget paints a surface of its own. The others show the surface below them and take
only color and font. -/
def paintsSurface : Widget → Bool
  | text .. => false
  | icon .. => false
  | tab .. => false
  | toggle .. => false
  | radioGroup .. => false
  | radio .. => false
  | _ => true

end Widget

/-- Where a control writes its value: a path into the state, or a value kept for its node. -/
inductive Target where
  | state (path : String)
  | local (id : String)
deriving DecidableEq, Repr

/-- What activating a node does. -/
inductive Interaction where
  | selectTab (tab : String)
  | invoke (action : String) (fromPopupFooter : Bool)
  | closePopup
  | dismissSnackbar
  | snackbarAction (action : Option String)
  /-- On to the next option; after the last comes the first. -/
  | cyclePicker (target : Target) (options : List Json) (current : Option Nat)
  | toggle (target : Target) (current : Bool) (followUp : Option String)
  | selectRadio (target : Target) (value : Json)
  | editText (target : Target)
deriving BEq

/-- A cell of the surrounding grid, counted from zero. -/
structure GridCell where
  row : UInt32
  column : UInt32
deriving DecidableEq, Repr

structure Node where
  id : String
  widget : Widget
  attributes : Option Attributes := none
  children : List Node := []
  interaction : Option Interaction := none
  cell : Option GridCell := none

namespace Node

def withAttributes (node : Node) (attributes : Attributes) : Node :=
  { node with attributes := some attributes }

/-! ### Equality -/

mutual
/-- Equality of everything that is drawn. A length that is not a number equals nothing. -/
def equal : Node → Node → Bool
  | ⟨id, widget, attributes, children, interaction, cell⟩, other =>
    id == other.id && widget == other.widget && attributes == other.attributes
      && interaction == other.interaction && cell == other.cell
      && equalChildren children other.children

def equalChildren : List Node → List Node → Bool
  | [], [] => true
  | node :: nodes, other :: others => equal node other && equalChildren nodes others
  | _, _ => false
end

/-! ### Traversal -/

mutual
/-- The first node with this id, the parent before its children. -/
def find? (id : String) : Node → Option Node
  | ⟨i, widget, attributes, children, interaction, cell⟩ =>
    if i = id then some ⟨i, widget, attributes, children, interaction, cell⟩
    else findAmong? id children

def findAmong? (id : String) : List Node → Option Node
  | [] => none
  | node :: nodes => (find? id node).or (findAmong? id nodes)
end

mutual
/-- The node and everything below it, parents before their children. -/
def preorder : Node → List Node
  | ⟨id, widget, attributes, children, interaction, cell⟩ =>
    ⟨id, widget, attributes, children, interaction, cell⟩ :: preorderAll children

def preorderAll : List Node → List Node
  | [] => []
  | node :: nodes => preorder node ++ preorderAll nodes
end

mutual
/-- The number of nodes of a tree. -/
def size : Node → Nat
  | ⟨_, _, _, children, _, _⟩ => sizeAll children + 1

def sizeAll : List Node → Nat
  | [] => 0
  | node :: nodes => size node + sizeAll nodes
end

theorem size_eq (node : Node) : node.size = sizeAll node.children + 1 := by
  cases node; rfl

theorem sizeAll_append (nodes others : List Node) :
    sizeAll (nodes ++ others) = sizeAll nodes + sizeAll others := by
  induction nodes with
  | nil => simp [sizeAll]
  | cons node nodes ih => simp [sizeAll, ih, Nat.add_assoc]

/-- Visits the nodes of a stack: the top one, then its children, then the rest. -/
def walk : List Node → List Node
  | [] => []
  | node :: stack => node :: walk (node.children ++ stack)
termination_by stack => sizeAll stack
decreasing_by
  simp only [sizeAll_append, sizeAll, size_eq]
  omega

/-- The node and everything below it, visited with a stack. -/
def descendants (node : Node) : List Node :=
  walk [node]

/-- The number of nodes that satisfy a condition. -/
def count (node : Node) (p : Node → Bool) : Nat :=
  node.descendants.countP p

end Node

end Wireframe
