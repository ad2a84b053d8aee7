import Wireframe.Json.Basic
import Wireframe.Style.Token

/-!
# Semantic styles

A style names its tokens one by one, and each may be left open. Styles are layered: what one leaves
open the one below it decides. A library gives names to styles and says how they are to be resolved.
-/

namespace Wireframe

/-- A semantic style; every token may be left open. -/
structure Style where
  surface : Option SurfaceLevel := none
  colorRole : Option ColorRole := none
  variant : Option Variant := none
  textStyle : Option TextStyle := none
  platform : Option Platform := none
deriving DecidableEq, Repr

namespace Style

/-- The style that leaves everything open. -/
def empty : Style := {}

/-- A surface of a level and a role. -/
def raised (level : SurfaceLevel) (role : ColorRole) : Style :=
  { surface := some level, colorRole := some role }

def withVariant (style : Style) (variant : Variant) : Style :=
  { style with variant := some variant }

def withText (style : Style) (textStyle : TextStyle) : Style :=
  { style with textStyle := some textStyle }

/-- The style, with what it leaves open taken from `base`. -/
def or (style base : Style) : Style :=
  { surface := style.surface.or base.surface
    colorRole := style.colorRole.or base.colorRole
    variant := style.variant.or base.variant
    textStyle := style.textStyle.or base.textStyle
    platform := style.platform.or base.platform }

/-- Reads the tokens of a style object; unknown names leave their token open. -/
def ofFields (fields : Entries Json) : Style :=
  { surface := (fields.string? "surface").bind SurfaceLevel.ofName?
    colorRole := (fields.string? "colorRole").bind ColorRole.ofName?
    variant := (fields.string? "variant").bind Variant.ofName?
    textStyle := (fields.string? "textStyle").bind TextStyle.ofName?
    platform := (fields.string? "platform").bind Platform.ofName? }

end Style

/-- A style by name or written out. -/
inductive StyleRef where
  | named (name : String)
  | inline (style : Style)
deriving DecidableEq, Repr

/-- Reads a style prop: a name or a style object. -/
def StyleRef.ofJson? : Json → Option StyleRef
  | .string name => some (named name)
  | .object fields => some (inline (Style.ofFields fields))
  | _ => none

/-- Colors of a brand, as they are written. -/
structure BrandColors where
  primary : Option String := none
  secondary : Option String := none
  accent : Option String := none
deriving DecidableEq, Repr

namespace BrandColors

/-- The brand's color for a role, if it may have one. -/
def color? (brand : BrandColors) : ColorRole → Option String
  | .primary => brand.primary
  | .secondary => brand.secondary
  | .tertiary => brand.accent
  | _ => none

def ofFields (fields : Entries Json) : BrandColors :=
  { primary := fields.string? "primary"
    secondary := fields.string? "secondary"
    accent := fields.string? "accent" }

end BrandColors

/-- Named styles, and preferences for their resolution. -/
structure StyleLibrary where
  styles : Entries Style := []
  platform : Platform := .auto
  theme : Theme := .light
  brand : BrandColors := {}
deriving DecidableEq, Repr

namespace StyleLibrary

/-- Reads the style library of a document; parts of the wrong shape are skipped. -/
def ofFields (fields : Entries Json) : StyleLibrary :=
  { styles := match fields.get? "styles" with
      | some (.object styles) => styles.filterMap fun (name, style) =>
          style.fields?.map fun fields => (name, Style.ofFields fields)
      | _ => []
    platform := ((fields.string? "platform").bind Platform.ofName?).getD .auto
    theme := ((fields.string? "theme").bind Theme.ofName?).getD .light
    brand := match fields.get? "brandColors" with
      | some (.object brand) => BrandColors.ofFields brand
      | _ => {} }

/-- The library of a document without one, or with one of the wrong shape, is empty. -/
def ofJson? (json : Option Json) : StyleLibrary :=
  match json with
  | some (.object fields) => ofFields fields
  | _ => {}

end StyleLibrary

end Wireframe
