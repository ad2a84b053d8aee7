/-!
# Component types

The closed catalog of component types, and the names they are written by. A name outside the catalog
is kept as it is.
-/

namespace Wireframe

inductive ComponentType where
  | shell
  | shellContent
  | contentPage
  | tabBar
  | tab
  | border
  | verticalStack
  | horizontalStack
  | grid
  | flexLayout
  | absoluteLayout
  | collectionView
  | swipeView
  | dataTemplate
  | entry
  | editor
  | picker
  | datePicker
  | timePicker
  | switch
  | checkBox
  | radioButtonGroup
  | radioButton
  | button
  | fabButton
  | label
  | icon
  | popup
  | snackbar
  | unknown (name : String)
deriving DecidableEq, Repr

namespace ComponentType

/-- The names of the catalog and their types; the first name of a type is its own. -/
def spellings : List (String × ComponentType) :=
  [("Shell", shell), ("ShellContent", shellContent), ("ContentPage", contentPage),
    ("TabBar", tabBar), ("Tab", tab), ("Border", border), ("Frame", border),
    ("VerticalStack", verticalStack), ("VerticalStackLayout", verticalStack),
    ("StackLayout", verticalStack), ("HorizontalStack", horizontalStack),
    ("HorizontalStackLayout", horizontalStack), ("Grid", grid), ("FlexLayout", flexLayout),
    ("AbsoluteLayout", absoluteLayout), ("CollectionView", collectionView),
    ("ListView", collectionView), ("SwipeView", swipeView), ("DataTemplate", dataTemplate),
    ("Entry", entry), ("Editor", editor), ("Picker", picker), ("DatePicker", datePicker),
    ("TimePicker", timePicker), ("Switch", switch), ("CheckBox", checkBox),
    ("RadioButtonGroup", radioButtonGroup), ("RadioButton", radioButton), ("Button", button),
    ("FabButton", fabButton), ("Label", label), ("Icon", icon), ("Image", icon),
    ("Popup", popup), ("Snackbar", snackbar)]

/-- The type with this name. -/
def ofName (name : String) : ComponentType :=
  (spellings.lookup name).getD (unknown name)

/-- The name of a type. -/
def name : ComponentType → String
  | shell => "Shell"
  | shellContent => "ShellContent"
  | contentPage => "ContentPage"
  | tabBar => "TabBar"
  | tab => "Tab"
  | border => "Border"
  | verticalStack => "VerticalStack"
  | horizontalStack => "HorizontalStack"
  | grid => "Grid"
  | flexLayout => "FlexLayout"
  | absoluteLayout => "AbsoluteLayout"
  | collectionView => "CollectionView"
  | swipeView => "SwipeView"
  | dataTemplate => "DataTemplate"
  | entry => "Entry"
  | editor => "Editor"
  | picker => "Picker"
  | datePicker => "DatePicker"
  | timePicker => "TimePicker"
  | switch => "Switch"
  | checkBox => "CheckBox"
  | radioButtonGroup => "RadioButtonGroup"
  | radioButton => "RadioButton"
  | button => "Button"
  | fabButton => "FabButton"
  | label => "Label"
  | icon => "Icon"
  | popup => "Popup"
  | snackbar => "Snackbar"
  | unknown name => name

/-- Whether the catalog has the type. -/
def isKnown : ComponentType → Bool
  | unknown _ => false
  | _ => true

example : spellings.all fun (name, type) => ofName name = type := by decide

end ComponentType

end Wireframe
