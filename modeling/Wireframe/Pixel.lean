import Wireframe.Json.Basic
import Wireframe.Decimal
import Wireframe.Text.Split

/-!
# Pixel lengths

Lengths on the screen are single-precision numbers of pixels. A spacing is given by a name of the
scale or as a length of its own.
-/

namespace Wireframe

/-- A length in pixels. -/
abbrev Pixels := Float32

namespace Pixels

/-- Whether a length has no fraction. -/
def isWhole (x : Pixels) : Bool :=
  !x.isNaN && !x.isInf && x.floor == x

/-- The text of a length: a whole number without a point, within the range of 64 bits. -/
def text (x : Pixels) : String :=
  if isWhole x then
    let n := x.toInt64.toInt
    (if n < 0 then "-" else "") ++ Nat.repr n.natAbs
  else Decimal.singleText x

end Pixels

/-- A step of the spacing scale, or a length. -/
inductive Spacing where
  | tight
  | standard
  | loose
  | pixels (length : Pixels)
deriving DecidableEq

namespace Spacing

/-- Reads a name of the scale, or a length with or without the unit `px`. -/
def ofName? (name : String) : Option Spacing :=
  match Text.trim name with
  | "tight" => some tight
  | "standard" => some standard
  | "loose" => some loose
  | other => (Text.single? (dropUnits other)).map pixels
where
  /-- Drops the units a length ends in. -/
  dropUnits (text : String) : String :=
    String.ofList (dropReversed text.toList.reverse).reverse
  dropReversed : List Char → List Char
    | 'x' :: 'p' :: cs => dropReversed cs
    | cs => cs

/-- Reads a spacing prop: a number of pixels or a text. -/
def ofJson? : Json → Option Spacing
  | .number n => some (pixels n.toDouble.toFloat32)
  | .string name => ofName? name
  | _ => none

/-- The gap between siblings. -/
def gap : Spacing → Pixels
  | tight => 4
  | standard => 12
  | loose => 20
  | pixels length => length

/-- The padding inside a container. -/
def padding : Spacing → Pixels
  | tight => 8
  | standard => 16
  | loose => 24
  | pixels length => length

end Spacing

end Wireframe
