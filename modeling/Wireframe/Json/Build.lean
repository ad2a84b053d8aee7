import Wireframe.Decimal
import Wireframe.Json.Basic

/-!
# Building JSON values

Values for what a program has at hand: numbers that may not be finite, texts that may be missing,
objects that say their type.
-/

namespace Wireframe.Json

/-- A double-precision number; one that is not finite is null. -/
def ofDouble (x : Float) : Json :=
  if x.isNaN || x.isInf then null else number (.double x)

/-- A single-precision number by its own shortest digits; one that is not finite is null. -/
def ofSingle (x : Float32) : Json :=
  if x.isNaN || x.isInf then null else number (.double (Decimal.widen x))

/-- A text, or null. -/
def ofText? : Option String → Json
  | some text => string text
  | none => null

/-- A list of texts. -/
def ofTexts (texts : List String) : Json := array (texts.map string)

/-- An object with its type. -/
def tagged (type : String) (fields : Entries Json) : Json :=
  object (("type", string type) :: fields)

/-- A field that is left out where there is no value. -/
def field? (key : String) (value : Option Json) : Entries Json :=
  match value with
  | some value => [(key, value)]
  | none => []

end Wireframe.Json
