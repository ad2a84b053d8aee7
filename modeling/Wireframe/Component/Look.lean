import Wireframe.Component.Type
import Wireframe.Style.Builtin

/-!
# Looks of component types

The style that a component has before its own is laid over it. Buttons and cards come in several
appearances.
-/

namespace Wireframe.ComponentType

/-- The look of a button. -/
def buttonLook : Option String → Style
  | some "outlined" => .builtin "button-outlined"
  | some "text" => .builtin "button-text"
  | some "tonal" => .builtin "secondary-button"
  | some "secondary" => .builtin "secondary-button"
  | some "destructive" => .builtin "button-destructive"
  | _ => .builtin "primary-button"

/-- The look of a card. -/
def cardLook : Option String → Style
  | some "elevated" => .builtin "card-elevated"
  | some "outlined" => .builtin "card-outlined"
  | _ => .builtin "card-default"

/-- The look of a field that is filled in. -/
def fieldLook : Style :=
  (Style.raised .level0 .surface).withVariant .outlined |>.withText .bodyLarge

/-- The look of a type in an appearance; blanks around its name do not count. -/
def look (type : ComponentType) (appearance : Option String) : Style :=
  match type with
  | button => buttonLook (appearance.map Text.trim)
  | border => cardLook (appearance.map Text.trim)
  | fabButton => (Style.raised .level3 .primary).withVariant .tonal |>.withText .labelLarge
  | entry => fieldLook
  | editor => fieldLook
  | picker => fieldLook
  | datePicker => fieldLook
  | timePicker => fieldLook
  | popup => .builtin "surface-modal"
  | snackbar => (Style.raised .level3 .surface).withText .bodyMedium
  | tabBar => (Style.raised .level2 .surface).withText .labelMedium
  | tab => (Style.raised .level2 .surface).withText .labelMedium
  | _ => .raised .level0 .surface

end Wireframe.ComponentType
