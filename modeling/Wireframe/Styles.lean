import Wireframe.DesignSystem.Cupertino
import Wireframe.DesignSystem.Material
import Wireframe.Style.Builtin

/-!
# Style resolution

A style reference becomes attributes: its name is looked up, what it leaves open is taken from the
component's own look, and the design system of its platform paints it. This never fails; an unknown
name stands for the empty style.
-/

namespace Wireframe

/-- What styles are resolved against: the document's library, and the platform to use where neither
a style nor the library names one. -/
structure Styles where
  library : StyleLibrary
  preference : Platform

namespace Styles

/-- The style with this name: of the library, built in, or an entry of the type scale. -/
def lookup (styles : Styles) (name : String) : Option Style :=
  (styles.library.styles.get? name).or
    ((Style.builtin? name).or
      ((TextStyle.ofName? name).map fun textStyle => { textStyle := some textStyle }))

/-- Whether some style has this name. -/
def isKnown (styles : Styles) (name : String) : Bool :=
  (styles.lookup name).isSome

/-- The style behind a reference. -/
def definition (styles : Styles) : StyleRef → Style
  | .inline style => style
  | .named name => (styles.lookup name).getD Style.empty

/-- The platform a style is rendered for, never `auto`. -/
def platform (styles : Styles) (style : Style) : Platform :=
  (((style.platform.getD .auto).or styles.library.platform).or styles.preference).or .android

/-- The design system of a platform. -/
def system : Platform → DesignSystem
  | .ios => DesignSystem.Cupertino.system
  | _ => DesignSystem.Material.system

/-- The attributes of a style. -/
def resolve (styles : Styles) (style : Style) : Attributes :=
  let system := system (styles.platform style)
  let decided := style.decide
  system.compose decided (system.brandedPalette styles.library.brand decided.colorRole)

/-- The attributes of a reference on top of the look a component has by itself. -/
def resolveOver (styles : Styles) (style : Option StyleRef) (base : Style) : Attributes :=
  styles.resolve (((style.map styles.definition).getD Style.empty).or base)

end Styles

end Wireframe
