import Wireframe.Binding.Lookup
import Wireframe.Component.Type
import Wireframe.Style.Basic

/-!
# Components

The tree of definitions that a document declares: components with props, a style, children and
named slots. A child is written out in place or refers to a declared component, with overrides for
that one use.
-/

namespace Wireframe

/-- Props in the order in which they were written. -/
abbrev Props := Entries PropValue

/-- The cell of a surrounding grid. -/
structure Placement where
  row : Option UInt32 := none
  column : Option UInt32 := none
deriving DecidableEq, Repr

/-- Whether a cell is asked for. -/
def Placement.isSet (placement : Placement) : Bool :=
  placement.row.isSome || placement.column.isSome

/-- The use of a declared component, with what it overrides. -/
structure Reference where
  id : String
  props : Props := []
  style : Option StyleRef := none
  slot : Option String := none
  placement : Placement := {}

/-- The names of the slots. -/
inductive Slot where
  | content
  | header
  | footer
  | template
  | emptyView
deriving DecidableEq, Repr

namespace Slot

def all : List Slot := [content, header, footer, template, emptyView]

def name : Slot → String
  | content => "content"
  | header => "header"
  | footer => "footer"
  | template => "template"
  | emptyView => "emptyView"

def ofName? (name : String) : Option Slot :=
  all.find? fun slot => slot.name = name

end Slot

/-- What stands in the slots. -/
structure Slots (α : Type) where
  content : Option α := none
  header : Option α := none
  footer : Option α := none
  template : Option α := none
  emptyView : Option α := none

/-- What stands in a slot. -/
def Slots.get? {α : Type} (slots : Slots α) : Slot → Option α
  | .content => slots.content
  | .header => slots.header
  | .footer => slots.footer
  | .template => slots.template
  | .emptyView => slots.emptyView

mutual

/-- The definition of a component. -/
structure Component where
  type : ComponentType
  props : List (String × PropValue)
  style : Option StyleRef
  /-- A container for the children: the children of one that is written out, or a reference, which
  is the first child itself. -/
  layout : Option Child
  children : List Child
  slots : Slots Child
  /-- Names of events and the actions they run. -/
  interactions : List (String × String)
  placement : Placement

/-- A place in a layout. -/
inductive Child where
  | reference (reference : Reference)
  | inline (component : Component)

end

namespace Component

/-- A component of a type with nothing else. -/
def ofType (type : ComponentType) : Component :=
  { type, props := [], style := none, layout := none, children := [], slots := {},
    interactions := [], placement := {} }

/-- The value of a prop. -/
def prop? (component : Component) (key : String) : Option PropValue :=
  Entries.get? component.props key

/-- The text of a prop that is a plain text. -/
def literal? (component : Component) (key : String) : Option String :=
  (component.prop? key).bind PropValue.literal?

/-- The children that the layout brings. -/
def layoutChildren (component : Component) : List Child :=
  match component.layout with
  | some (.inline layout) => layout.children
  | some (.reference reference) => [.reference reference]
  | none => []

/-- The children in the order in which they are drawn. -/
def allChildren (component : Component) : List Child :=
  component.layoutChildren ++ component.children

/-- The action of the first of these events that has one. -/
def interaction? (component : Component) (events : List String) : Option String :=
  events.findSome? (Entries.get? component.interactions ·)

end Component

end Wireframe
