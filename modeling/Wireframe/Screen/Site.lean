import Wireframe.Component.Look
import Wireframe.Session
import Wireframe.Stage

/-!
# Sites

A site is a component at one place of the screen: with what the place overrides, the data it can see,
and what it takes over from the nodes above it.
-/

namespace Wireframe

/-- What the buttons of a radio group share: where they write, and the value that is chosen. -/
structure RadioGroup where
  target : Target
  current : Json

/-- What a node takes over from the nodes above it. -/
structure Scope where
  /-- The current item, inside the template of a list. -/
  item : Option Json := none
  inPopupFooter : Bool := false
  radioGroup : Option RadioGroup := none

/-- Lays the overrides of a reference over the component it refers to. A cell is taken as a whole. -/
def Component.overridden (component : Component) (reference : Reference) : Component :=
  { component with
    props := Entries.overlay component.props reference.props
    style := reference.style.or component.style
    placement :=
      if reference.placement.isSet then reference.placement else component.placement }

structure Site where
  id : String
  component : Component
  scope : Scope
  context : Context
  /-- The values of controls without a place in the state. -/
  locals : Entries Json
  styles : Styles

namespace Stage

variable (stage : Stage) (session : Session)

/-- The data that bindings see. -/
def context (item : Option Json) : Context :=
  { sampleData := stage.document.sampleData
    state := session.values
    item
    today := stage.options.today }

def site (scope : Scope) (component : Component) (id : String) : Site :=
  { id
    component
    scope
    context := stage.context session scope.item
    locals := session.locals
    styles := stage.styles }

end Stage

namespace Site

variable (site : Site)

/-! ### Props -/

/-- The prop in a field of the component's form. -/
def prop? (field : Field) : Option PropValue :=
  site.component.view.get? field

def text? (field : Field) : Option String :=
  PropValue.text? site.context (site.prop? field)

/-- The text of a field, empty where it is missing. -/
def text (field : Field) : String :=
  (site.text? field).getD ""

/-- The value of a field, null where it is missing. -/
def value (field : Field) : Json :=
  PropValue.resolve? site.context (site.prop? field)

/-- The standard spacing stands in for a field that is missing or no spacing. -/
def spacing (field : Field) : Spacing :=
  (Spacing.ofJson? (site.value field)).getD .standard

/-! ### Controls -/

/-- Where a control writes: the place in the state that its field is bound to, or else a value kept
for its node. -/
def target (field : Field) : Target :=
  match ((site.prop? field).bind PropValue.binding?).bind Binding.statePath? with
  | some path => .state path.display
  | none => .local site.id

/-- The value of a control: what was written, or else its field. -/
def controlValue (field : Field) : Json :=
  match site.target field with
  | .state _ => site.value field
  | .local id => (site.locals.get? id).getD (site.value field)

/-- The events that count as a click, the preferred one first. -/
def clickEvents : List String := ["Clicked", "Click", "Tapped", "Pressed"]

def toggleEvents : List String := ["Toggled", "CheckedChanged", "Changed"]

/-- What a click does: it runs the action of a click event, or else one that a prop names. -/
def click? : Option Interaction :=
  let extra := site.component.view.extra
  let named := ((extra.get? "command").or (extra.get? "action")).bind PropValue.literal?
  ((site.component.interaction? clickEvents).or named).map fun action =>
    .invoke action site.scope.inPopupFooter

/-! ### Looks -/

/-- The look of the component in an appearance. -/
def attributes (appearance : Option String) : Attributes :=
  site.styles.resolveOver site.component.style (site.component.type.look appearance)

/-- The look of a container, which has one only if it asks for a style. -/
def containerAttributes? : Option Attributes :=
  site.component.style.map fun _ => site.attributes none

/-- The cell that the component is placed in. -/
def cell? : Option GridCell :=
  let placement := site.component.placement
  if placement.isSet then
    some { row := placement.row.getD 0, column := placement.column.getD 0 }
  else none

end Site

end Wireframe
