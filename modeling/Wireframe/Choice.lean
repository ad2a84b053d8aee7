import Wireframe.Json.Printer

/-!
# Choices

The options of a picker. A record names the fields that hold the label and the value of its option;
any other value is its own label.
-/

namespace Wireframe

/-- An option of a picker. -/
structure Choice where
  label : String
  value : Json

namespace Choice

/-- Reads one option. A record without a value field is its own value, and one without a label field
is labelled by its value. -/
def ofJson (labelKey valueKey : String) (item : Json) : Choice :=
  match item with
  | .object fields =>
    let value := (Entries.get? fields valueKey).getD item
    { label := ((Entries.get? fields labelKey).map Json.display).getD value.display, value }
  | other => { label := other.display, value := other }

/-- Reads the options of a picker; only a list has any. -/
def list (labelKey valueKey : Option String) : Json → List Choice
  | .array items => items.map (ofJson (labelKey.getD "label") (valueKey.getD "value"))
  | _ => []

/-- The place of the first option with this value. -/
def indexOf? (choices : List Choice) (value : Json) : Option Nat :=
  choices.findIdx? fun choice => choice.value == value

end Choice

end Wireframe
