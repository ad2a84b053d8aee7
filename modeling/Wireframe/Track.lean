import Wireframe.Decimal
import Wireframe.Json.Printer
import Wireframe.Text.Split

/-!
# Grid tracks

The sizes of the rows or columns of a grid. A star takes a share of the room that is left, a plain
number is a number of pixels, and anything else is CSS already.
-/

namespace Wireframe.Track

/-- Whether a text reads as a number. -/
def isNumber (text : String) : Bool :=
  (Text.single? text).isSome

/-- The CSS size of one track. -/
def css (text : String) : String :=
  let text := Text.trim text
  if text = "*" then "1fr"
  else
    match Text.dropEnd? "*" text with
    | some weight => if isNumber weight then weight ++ "fr" else text
    | none => if isNumber text then text ++ "px" else text

/-- Reads tracks: a list, a text with commas between the tracks, or their number. -/
def list : Json → List String
  | .array items => items.map fun item => css item.display
  | .string text =>
    ((Text.splitChars ',' text.toList).filter fun piece => Text.trimChars piece ≠ []).map fun piece =>
      css (String.ofList piece)
  | .number n => List.replicate (n.natural?.getD 0) "1fr"
  | _ => []

end Wireframe.Track
