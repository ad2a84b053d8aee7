import Wireframe.Node.Build
import Wireframe.Screen.Site
import Wireframe.Track

/-!
# Drawing components

Every component becomes one node. A child that is a reference is followed, and since references may
go round in circles, nesting is drawn only down to a fixed depth. Nothing here fails: what cannot be
drawn becomes a mark on the screen, and its siblings are drawn as usual.
-/

namespace Wireframe

/-- How a child is drawn: in a scope, under an id. -/
abbrev Draw := Scope → Child → String → Node

namespace Site

variable (site : Site)

/-- The id of a part of the component. -/
def partId (part : String) : String := site.id ++ "/" ++ part

/-- The children, numbered from zero. -/
def children (draw : Draw) (scope : Scope) : List Node :=
  site.component.allChildren.mapIdx fun i child => draw scope child (site.partId (Nat.repr i))

/-- What stands in a slot, drawn under the slot's name. -/
def slot? (draw : Draw) (slot : Slot) : Option Node :=
  (site.component.slots.get? slot).map fun child => draw site.scope child (site.partId slot.name)

/-! ### Texts and buttons -/

def label : Node :=
  (Node.label site.id (site.text .text) (site.text? .decoration)).withAttributes
    (site.attributes none)

def icon : Node :=
  (Node.icon site.id (site.text .name) ((site.value .size).double?.map Float.toFloat32)).withAttributes
    (site.attributes none)

def button : Node :=
  (Node.button site.id (site.text .text) (site.text? .icon) site.click?).withAttributes
    (site.attributes (site.text? .appearance))

def fab : Node :=
  (Node.fab site.id (site.text? .label) (site.text? .icon) site.click?).withAttributes
    (site.attributes none)

/-! ### Containers -/

/-- A card. Its content slot comes before its children. -/
def card (draw : Draw) : Node :=
  { id := site.id
    widget := .card (site.text? .header) (site.text? .footer) (site.spacing .padding).padding
      (site.text? .background)
    attributes := site.attributes (site.text? .variant)
    children := (site.slot? draw .content).toList ++ site.children draw site.scope }

/-- A stack, or children placed freely over each other. Without a field for it, there is no
padding. -/
def stack (draw : Draw) : Node :=
  let direction : Direction :=
    if site.component.type = .horizontalStack then .horizontal else .vertical
  { id := site.id
    widget :=
      if site.component.type = .absoluteLayout then .overlay
      else .stack direction (site.spacing .spacing).gap
        (if (site.prop? .padding).isSome then (site.spacing .padding).padding else 0)
    attributes := site.containerAttributes?
    children := site.children draw site.scope }

def grid (draw : Draw) : Node :=
  { id := site.id
    widget := .grid (Track.list (site.value .columns)) (Track.list (site.value .rows))
      (site.spacing .gap).gap
    attributes := site.containerAttributes?
    children := site.children draw site.scope }

/-- The direction that a text names; children stand side by side unless it says otherwise. -/
def flexDirection : Option String → Direction
  | some "column" => .vertical
  | some "vertical" => .vertical
  | _ => .horizontal

/-- Whether children may go on in a new line: any text but `nowrap` says so. -/
def wraps : Json → Bool
  | .string mode => mode ≠ "" && Text.trim mode ≠ "nowrap"
  | value => value.isTruthy

def flex (draw : Draw) : Node :=
  { id := site.id
    widget := .flex (flexDirection ((site.text? .direction).map Text.trim))
      (wraps (site.value .wrap)) (site.spacing .gap).gap
    attributes := site.containerAttributes?
    children := site.children draw site.scope }

/-- The swipe container around its content slot, or else its first child. -/
def swipe (draw : Draw) : Node :=
  let content := site.component.slots.content.or site.component.allChildren.head?
  { id := site.id
    widget := .swipe (SwipeAction.list (site.value .leftItems))
      (SwipeAction.list (site.value .rightItems))
    children :=
      (content.map fun child => draw site.scope child (site.partId "content")).toList }

/-! ### Lists -/

/-- What each item of a list is drawn by: the template, the content slot, or the first child. -/
def template? : Option Child :=
  (site.component.slots.template.or site.component.slots.content).or
    site.component.allChildren.head?

/-- The content of an item. Without a template it is a label. -/
def itemContent (draw : Draw) (item : Json) (id : String) : Node :=
  match site.template? with
  | some template => draw { site.scope with item := some item } template id
  | none => Node.label id item.display none

/-- The node of an item of a list. -/
def item (draw : Draw) (index : Nat) (item : Json) : Node :=
  let id := site.partId (Nat.repr index)
  { id
    widget := .collectionItem index
    children := [site.itemContent draw item (id ++ "/0")] }

/-- What takes the place of the items where there are none. -/
def emptyView? (draw : Draw) : Option Node :=
  site.component.slots.emptyView.map fun child =>
    { id := site.partId "empty"
      widget := .emptyView
      children := [draw site.scope child (site.partId "empty/0")] }

/-- A list. A template that is drawn by itself repeats too, but it has no header or footer. -/
def collection (draw : Draw) : Node :=
  let items := (site.value .items).items?.getD []
  let framed := site.component.type ≠ .dataTemplate
  { Node.collection site.id
      (if framed then site.slot? draw .header else none)
      (items.mapIdx (site.item draw))
      (if framed then site.slot? draw .footer else none)
      (site.emptyView? draw) with
    attributes := site.containerAttributes? }

/-! ### Controls -/

def textField : Node :=
  { id := site.id
    widget := .textField (site.text? .label) (site.text? .placeholder)
      (site.controlValue .value).display (site.text? .helper) (site.text? .error)
      (site.value .secure).isTruthy (site.component.type = .editor)
    attributes := site.attributes none
    interaction := some (.editText (site.target .value)) }

def picker : Node :=
  let literal? (field : Field) := (site.prop? field).bind PropValue.literal?
  let choices := Choice.list (literal? .labelPath) (literal? .valuePath) (site.value .options)
  (Node.picker site.id (site.text? .label) choices (site.controlValue .selected)
    (site.target .selected)).withAttributes (site.attributes none)

def dateTime : Node :=
  { id := site.id
    widget := .dateTime (site.text? .label) (site.text .value)
      (if site.component.type = .timePicker then .time else .date)
    attributes := site.attributes none }

def toggle : Node :=
  let on := (site.controlValue .value).isTruthy
  { id := site.id
    widget := .toggle (site.text? .label) on
      (if site.component.type = .checkBox then .checkbox else .switch)
    attributes := site.attributes none
    interaction :=
      some (.toggle (site.target .value) on (site.component.interaction? toggleEvents)) }

/-- A radio group, which hands its target and its value to the buttons below it. -/
def radioGroup (draw : Draw) : Node :=
  let group := { target := site.target .value, current := site.controlValue .value }
  { id := site.id
    widget := .radioGroup (site.text? .label)
    attributes := site.attributes none
    children := site.children draw { site.scope with radioGroup := some group } }

/-- A radio button. Outside a group it keeps its own value. -/
def radio : Node :=
  let own := site.value .value
  let (target, selected) := match site.scope.radioGroup with
    | some group => (group.target, group.current == own)
    | none => (.local site.id, (site.locals.get? site.id).any (· == own))
  { id := site.id
    widget := .radio ((site.text? .content).getD own.display) selected
    attributes := site.attributes none
    interaction := some (.selectRadio target own) }

/-! ### All components -/

/-- A component without props of its own: a page inside a layout is a stack, and anything else has
no picture. -/
def other (draw : Draw) : Node :=
  match site.component.type with
  | .contentPage =>
    { id := site.id
      widget := .stack .vertical Spacing.standard.gap 0
      children := site.children draw site.scope }
  | type => Node.placeholder site.id type.name

/-- The node of a component, without its cell. Popups and snackbars are drawn above the page, so
that inside a layout they leave only an empty overlay. -/
def body (draw : Draw) : Node :=
  match site.component.type.form with
  | .label => site.label
  | .icon => site.icon
  | .button => site.button
  | .fab => site.fab
  | .border => site.card draw
  | .stack => site.stack draw
  | .grid => site.grid draw
  | .flex => site.flex draw
  | .collection => site.collection draw
  | .swipe => site.swipe draw
  | .textInput => site.textField
  | .picker => site.picker
  | .dateTime => site.dateTime
  | .toggle => site.toggle
  | .radioGroup => site.radioGroup draw
  | .radio => site.radio
  | .popup => { id := site.id, widget := .overlay }
  | .snackbar => { id := site.id, widget := .overlay }
  | .generic => site.other draw

/-- The node of a component. -/
def node (draw : Draw) : Node :=
  { site.body draw with cell := site.cell? }

end Site

/-- What a child is called where it is not drawn: the id it refers to, or its type. -/
def Child.name : Child → String
  | .reference use => use.id
  | .inline component => component.type.name

/-- Draws a child, with what is below it down to `depth` levels. -/
def Stage.draw (stage : Stage) (session : Session) : Nat → Draw
  | 0 => fun _ child id => Node.missing id child.name .tooDeep
  | depth + 1 => fun scope child id =>
    match child with
    | .inline component => (stage.site session scope component id).node (stage.draw session depth)
    | .reference reference =>
      match stage.document.component? reference.id with
      | some component =>
        (stage.site session scope (component.overridden reference) id).node
          (stage.draw session depth)
      | none => Node.missing id reference.id .notFound

end Wireframe
