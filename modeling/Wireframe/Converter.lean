import Wireframe.Json.Basic
import Wireframe.Calendar
import Wireframe.Text.Uppercase

/-!
# Converters

The closed set of conversions an item binding can ask for. A value that a converter cannot read
passes through it unchanged.
-/

namespace Wireframe

inductive Converter where
  | relativeDate
  | completedToStrikethrough
  | invertBool
  | toUpper
deriving DecidableEq, Repr

namespace Converter

def all : List Converter :=
  [relativeDate, completedToStrikethrough, invertBool, toUpper]

def name : Converter → String
  | relativeDate => "RelativeDate"
  | completedToStrikethrough => "CompletedToStrikethrough"
  | invertBool => "InvertBool"
  | toUpper => "ToUpper"

/-- The converter with this name; blanks around it do not count. -/
def ofName? (name : String) : Option Converter :=
  all.find? fun converter => converter.name = Text.trim name

/-- The converted value, on the day with number `today`. -/
def apply (today : Int) (value : Json) : Converter → Json
  | relativeDate =>
    match value.string?.bind Calendar.day? with
    | some day => .string (Calendar.relativeDay (day - today))
    | none => value
  | completedToStrikethrough => .string (if value.isTruthy then "strikethrough" else "none")
  | invertBool => .bool (!value.isTruthy)
  | toUpper =>
    match value with
    | .string text => .string (Text.upper text)
    | other => other

end Converter

end Wireframe
