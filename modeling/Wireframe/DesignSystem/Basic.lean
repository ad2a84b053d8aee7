import Wireframe.Color
import Wireframe.Style.Attributes
import Wireframe.Style.Basic

/-!
# Design systems

A design system gives every color role a palette, every entry of the type scale a font, and says how
a surface is painted. A brand color takes the place of the palette of its role.
-/

namespace Wireframe

/-- The colors of a role. -/
structure Palette where
  /-- The role's own color. -/
  main : String
  /-- What is drawn on `main`. -/
  onMain : String
  /-- A background with a tint of the role. -/
  container : String
  /-- What is drawn on `container`. -/
  onContainer : String
deriving DecidableEq, Repr

/-- The palette of a brand color. -/
def Palette.ofBrand (color : Color) : Palette :=
  { main := color.css
    onMain := color.contrasting.css
    container := (color.withAlpha 0.16).css
    onContainer := color.css }

/-- A style with every token decided but the variant, which a component may do without. -/
structure DecidedStyle where
  surface : SurfaceLevel
  colorRole : ColorRole
  variant : Option Variant
  textStyle : TextStyle
deriving DecidableEq, Repr

/-- The style with the usual token wherever one is left open. -/
def Style.decide (style : Style) : DecidedStyle :=
  { surface := style.surface.getD .level0
    colorRole := style.colorRole.getD .surface
    variant := style.variant
    textStyle := style.textStyle.getD .bodyMedium }

/-- How a surface is painted. -/
structure Paint where
  background : String
  foreground : String
  border : Option String := none
  shadow : Option String := none
  backdropFilter : Option String := none

structure DesignSystem where
  platform : Platform
  palette : ColorRole → Palette
  typography : TextStyle → Typography
  paint : DecidedStyle → Palette → Paint

namespace DesignSystem

/-- The corner radius of every surface. -/
def cornerRadius : Pixels := 12

/-- The look of a style with a palette. -/
def compose (system : DesignSystem) (style : DecidedStyle) (palette : Palette) : Attributes :=
  let paint := system.paint style palette
  { platform := system.platform
    background := paint.background
    foreground := paint.foreground
    border := paint.border
    cornerRadius
    shadow := paint.shadow
    backdropFilter := paint.backdropFilter
    typography := system.typography style.textStyle }

/-- The palette of a role, made from the brand's color for it if that is one. -/
def brandedPalette (system : DesignSystem) (brand : BrandColors) (role : ColorRole) : Palette :=
  match (brand.color? role).bind Color.ofHex? with
  | some color => Palette.ofBrand color
  | none => system.palette role

end DesignSystem

end Wireframe
