import Wireframe.Json.Build
import Wireframe.Pixel
import Wireframe.Style.Token

/-!
# Visual attributes

The look of a node once its style is resolved: colors, corner, shadow and font. It is written as
CSS declarations, and as JSON for whoever inspects the screen.
-/

namespace Wireframe

/-- The font of an entry of the type scale. -/
structure Typography where
  family : String
  size : Pixels
  weight : Nat
  lineHeight : Pixels
  letterSpacing : Pixels
deriving DecidableEq

/-- The resolved look of a node. -/
structure Attributes where
  /-- The design system used, never `auto`. -/
  platform : Platform
  background : String
  foreground : String
  border : Option String
  cornerRadius : Pixels
  shadow : Option String
  backdropFilter : Option String
  typography : Typography
deriving DecidableEq

/-- A CSS declaration. -/
def declaration (property value : String) : String :=
  property ++ ":" ++ value ++ ";"

/-- A CSS declaration of a length. -/
def lengthDeclaration (property : String) (length : Pixels) : String :=
  declaration property (length.text ++ "px")

/-- A CSS declaration that is left out where there is no value. -/
def optionalDeclaration (property : String) : Option String → String
  | some value => declaration property value
  | none => ""

namespace Typography

def css (typography : Typography) : String :=
  declaration "font-family" typography.family
    ++ lengthDeclaration "font-size" typography.size
    ++ declaration "font-weight" (Nat.repr typography.weight)
    ++ lengthDeclaration "line-height" typography.lineHeight
    ++ lengthDeclaration "letter-spacing" typography.letterSpacing

def toJson (typography : Typography) : Json :=
  .object
    [("family", .string typography.family),
      ("size", .ofSingle typography.size),
      ("weight", .natural typography.weight),
      ("lineHeight", .ofSingle typography.lineHeight),
      ("letterSpacing", .ofSingle typography.letterSpacing)]

end Typography

namespace Attributes

/-- All declarations, for nodes that paint their own surface. -/
def css (attributes : Attributes) : String :=
  declaration "background" attributes.background
    ++ declaration "color" attributes.foreground
    ++ lengthDeclaration "border-radius" attributes.cornerRadius
    ++ optionalDeclaration "border" attributes.border
    ++ optionalDeclaration "box-shadow" attributes.shadow
    ++ optionalDeclaration "backdrop-filter" attributes.backdropFilter
    ++ optionalDeclaration "-webkit-backdrop-filter" attributes.backdropFilter
    ++ attributes.typography.css

/-- Color and font only, for nodes that show the surface below them. -/
def textCss (attributes : Attributes) : String :=
  declaration "color" attributes.foreground ++ attributes.typography.css

def toJson (attributes : Attributes) : Json :=
  .object
    [("platform", .string attributes.platform.name),
      ("background", .string attributes.background),
      ("foreground", .string attributes.foreground),
      ("border", .ofText? attributes.border),
      ("cornerRadius", .ofSingle attributes.cornerRadius),
      ("shadow", .ofText? attributes.shadow),
      ("backdropFilter", .ofText? attributes.backdropFilter),
      ("typography", attributes.typography.toJson)]

end Attributes

end Wireframe
