import Wireframe.Component.Basic

/-!
# Typed views of props

Each component type reads certain props, and accepts more than one key for some of them. A view
gives every field the prop of the first of its keys that is there, and keeps the props that no field
accepts.
-/

namespace Wireframe

/-- What a prop means to the component that reads it. -/
inductive Field where
  | text
  | decoration
  | icon
  | appearance
  | label
  | name
  | size
  | header
  | footer
  | variant
  | padding
  | background
  | spacing
  | rows
  | columns
  | gap
  | direction
  | wrap
  | items
  | leftItems
  | rightItems
  | placeholder
  | value
  | helper
  | error
  | secure
  | options
  | labelPath
  | valuePath
  | selected
  | content
  | title
  | message
  | actionLabel
  | visible
  | duration
deriving DecidableEq, Repr

namespace Field

def key : Field → String
  | text => "text"
  | decoration => "decoration"
  | icon => "icon"
  | appearance => "appearance"
  | label => "label"
  | name => "name"
  | size => "size"
  | header => "header"
  | footer => "footer"
  | variant => "variant"
  | padding => "padding"
  | background => "background"
  | spacing => "spacing"
  | rows => "rows"
  | columns => "columns"
  | gap => "gap"
  | direction => "direction"
  | wrap => "wrap"
  | items => "items"
  | leftItems => "leftItems"
  | rightItems => "rightItems"
  | placeholder => "placeholder"
  | value => "value"
  | helper => "helper"
  | error => "error"
  | secure => "secure"
  | options => "options"
  | labelPath => "labelPath"
  | valuePath => "valuePath"
  | selected => "selected"
  | content => "content"
  | title => "title"
  | message => "message"
  | actionLabel => "actionLabel"
  | visible => "visible"
  | duration => "duration"

end Field

/-- The forms that props can have. -/
inductive Form where
  | label
  | button
  | fab
  | icon
  | border
  | stack
  | grid
  | flex
  | collection
  | swipe
  | textInput
  | picker
  | dateTime
  | toggle
  | radioGroup
  | radio
  | popup
  | snackbar
  | generic
deriving DecidableEq, Repr

namespace Form

def name : Form → String
  | label => "Label"
  | button => "Button"
  | fab => "Fab"
  | icon => "Icon"
  | border => "Border"
  | stack => "Stack"
  | grid => "Grid"
  | flex => "Flex"
  | collection => "Collection"
  | swipe => "Swipe"
  | textInput => "TextInput"
  | picker => "Picker"
  | dateTime => "DateTime"
  | toggle => "Toggle"
  | radioGroup => "RadioGroup"
  | radio => "Radio"
  | popup => "Popup"
  | snackbar => "Snackbar"
  | generic => "Generic"

/-- The fields of a form, each with the keys it accepts, the preferred one first. -/
def fields : Form → List (Field × List String)
  | label => [(.text, ["text"]), (.decoration, ["textDecorations", "textDecoration"])]
  | button =>
    [(.text, ["text"]), (.icon, ["icon"]), (.appearance, ["appearance", "variant"])]
  | fab => [(.label, ["label", "text"]), (.icon, ["icon"])]
  | icon => [(.name, ["name", "icon", "source"]), (.size, ["size"])]
  | border =>
    [(.header, ["header"]), (.footer, ["footer"]), (.variant, ["variant"]),
      (.padding, ["padding"]), (.background, ["background"])]
  | stack => [(.spacing, ["spacing", "gap"]), (.padding, ["padding"])]
  | grid => [(.rows, ["rows"]), (.columns, ["columns"]), (.gap, ["gap", "spacing"])]
  | flex => [(.direction, ["direction"]), (.wrap, ["wrap"]), (.gap, ["gap", "spacing"])]
  | collection => [(.items, ["items", "itemsSource"])]
  | swipe => [(.leftItems, ["leftItems"]), (.rightItems, ["rightItems"])]
  | textInput =>
    [(.label, ["label"]), (.placeholder, ["placeholder"]), (.value, ["value", "text"]),
      (.helper, ["helperText", "helper"]), (.error, ["errorText", "error"]),
      (.secure, ["isPassword", "secure"])]
  | picker =>
    [(.label, ["label", "title"]), (.options, ["options", "itemsSource"]),
      (.labelPath, ["labelPath"]), (.valuePath, ["valuePath"]),
      (.selected, ["selectedValue", "value"])]
  | dateTime => [(.label, ["label"]), (.value, ["value", "date", "time"])]
  | toggle => [(.label, ["label"]), (.value, ["isToggled", "checked", "isChecked", "value"])]
  | radioGroup => [(.label, ["label"]), (.value, ["value", "selectedValue"])]
  | radio => [(.value, ["value"]), (.content, ["content", "text", "label"])]
  | popup => [(.title, ["title"])]
  | snackbar =>
    [(.message, ["message", "text"]), (.actionLabel, ["actionLabel", "actionButtonText"]),
      (.visible, ["isVisible", "visible"]), (.duration, ["durationMs", "duration"])]
  | generic => []

end Form

/-- The form of a type's props. -/
def ComponentType.form : ComponentType → Form
  | label => .label
  | button => .button
  | fabButton => .fab
  | icon => .icon
  | border => .border
  | verticalStack => .stack
  | horizontalStack => .stack
  | absoluteLayout => .stack
  | grid => .grid
  | flexLayout => .flex
  | collectionView => .collection
  | dataTemplate => .collection
  | swipeView => .swipe
  | entry => .textInput
  | editor => .textInput
  | picker => .picker
  | datePicker => .dateTime
  | timePicker => .dateTime
  | switch => .toggle
  | checkBox => .toggle
  | radioButtonGroup => .radioGroup
  | radioButton => .radio
  | popup => .popup
  | snackbar => .snackbar
  | _ => .generic

/-- Props sorted into the fields of a form. -/
structure View where
  form : Form
  fields : List (Field × PropValue)
  /-- The props whose key no field accepts, in their order. -/
  extra : Props

namespace View

/-- Takes the props with these keys out: the one of the first key that is there, and what is
left. -/
def take : List String → Props → Option PropValue × Props
  | [], props => (none, props)
  | key :: keys, props =>
    let (rest, left) := take keys (props.erase key)
    ((props.get? key).or rest, left)

/-- Fills fields one after the other. -/
def fill : List (Field × List String) → Props → List (Field × PropValue) × Props
  | [], props => ([], props)
  | (field, keys) :: rest, props =>
    let (found, left) := take keys props
    let (fields, extra) := fill rest left
    match found with
    | some value => ((field, value) :: fields, extra)
    | none => (fields, extra)

/-- The view of a type on props. -/
def ofProps (type : ComponentType) (props : Props) : View :=
  let (fields, extra) := fill type.form.fields props
  { form := type.form, fields, extra }

/-- The prop in a field. -/
def get? (view : View) (field : Field) : Option PropValue :=
  view.fields.lookup field

end View

/-- The view of a component on its own props. -/
def Component.view (component : Component) : View :=
  View.ofProps component.type component.props

end Wireframe
