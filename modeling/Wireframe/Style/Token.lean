import Wireframe.Text.Blank

/-!
# Style tokens

The words a semantic style is made of. They say what a surface means, and leave colors and metrics
to the design system that is chosen later. Each kind of token lists its members and their names.
-/

namespace Wireframe

/-- The first member with the trimmed name. -/
def Text.named? {α : Type} (members : List α) (nameOf : α → String) (name : String) : Option α :=
  members.find? fun member => nameOf member = Text.trim name

/-- The design system to render with. -/
inductive Platform where
  | ios
  | android
  | auto
deriving DecidableEq, Repr, Inhabited

namespace Platform

def all : List Platform := [ios, android, auto]

def name : Platform → String
  | ios => "ios"
  | android => "android"
  | auto => "auto"

/-- The platform with this name, in any case. -/
def ofName? (name : String) : Option Platform :=
  Text.named? all Platform.name (String.ofList (name.toList.map Char.toLower))

/-- The platform, or another one where it is left open. -/
def or : Platform → Platform → Platform
  | auto, fallback => fallback
  | ios, _ => ios
  | android, _ => android

end Platform

/-- How far a surface is raised. -/
inductive SurfaceLevel where
  | level0
  | level1
  | level2
  | level3
  | level4
  | level5
deriving DecidableEq, Repr

namespace SurfaceLevel

def all : List SurfaceLevel := [level0, level1, level2, level3, level4, level5]

def name : SurfaceLevel → String
  | level0 => "level0"
  | level1 => "level1"
  | level2 => "level2"
  | level3 => "level3"
  | level4 => "level4"
  | level5 => "level5"

/-- The number of the level. -/
def index : SurfaceLevel → Nat
  | level0 => 0
  | level1 => 1
  | level2 => 2
  | level3 => 3
  | level4 => 4
  | level5 => 5

/-- The level, or the lowest raised one for a flat surface. -/
def atLeastOne : SurfaceLevel → SurfaceLevel
  | level0 => level1
  | level => level

def ofName? (name : String) : Option SurfaceLevel :=
  Text.named? all SurfaceLevel.name name

end SurfaceLevel

/-- The part a color plays. -/
inductive ColorRole where
  | primary
  | secondary
  | tertiary
  | error
  | warning
  | success
  | surface
  | background
deriving DecidableEq, Repr

namespace ColorRole

def all : List ColorRole :=
  [primary, secondary, tertiary, error, warning, success, surface, background]

def name : ColorRole → String
  | primary => "primary"
  | secondary => "secondary"
  | tertiary => "tertiary"
  | error => "error"
  | warning => "warning"
  | success => "success"
  | surface => "surface"
  | background => "background"

def ofName? (name : String) : Option ColorRole :=
  Text.named? all ColorRole.name name

/-- Neutral roles color the surface itself. -/
def isNeutral : ColorRole → Bool
  | surface => true
  | background => true
  | _ => false

end ColorRole

/-- How strongly a component is drawn. -/
inductive Variant where
  | filled
  | outlined
  | text
  | elevated
  | tonal
deriving DecidableEq, Repr

namespace Variant

def all : List Variant := [filled, outlined, text, elevated, tonal]

def name : Variant → String
  | filled => "filled"
  | outlined => "outlined"
  | text => "text"
  | elevated => "elevated"
  | tonal => "tonal"

def ofName? (name : String) : Option Variant :=
  Text.named? all Variant.name name

end Variant

/-- An entry of the type scale. -/
inductive TextStyle where
  | displayLarge
  | displayMedium
  | displaySmall
  | headlineLarge
  | headlineMedium
  | headlineSmall
  | titleLarge
  | titleMedium
  | titleSmall
  | bodyLarge
  | bodyMedium
  | bodySmall
  | labelLarge
  | labelMedium
  | labelSmall
deriving DecidableEq, Repr

namespace TextStyle

def all : List TextStyle :=
  [displayLarge, displayMedium, displaySmall, headlineLarge, headlineMedium, headlineSmall,
    titleLarge, titleMedium, titleSmall, bodyLarge, bodyMedium, bodySmall,
    labelLarge, labelMedium, labelSmall]

def name : TextStyle → String
  | displayLarge => "display-large"
  | displayMedium => "display-medium"
  | displaySmall => "display-small"
  | headlineLarge => "headline-large"
  | headlineMedium => "headline-medium"
  | headlineSmall => "headline-small"
  | titleLarge => "title-large"
  | titleMedium => "title-medium"
  | titleSmall => "title-small"
  | bodyLarge => "body-large"
  | bodyMedium => "body-medium"
  | bodySmall => "body-small"
  | labelLarge => "label-large"
  | labelMedium => "label-medium"
  | labelSmall => "label-small"

def ofName? (name : String) : Option TextStyle :=
  Text.named? all TextStyle.name name

end TextStyle

inductive Theme where
  | light
  | dark
  | auto
deriving DecidableEq, Repr

namespace Theme

def all : List Theme := [light, dark, auto]

def name : Theme → String
  | light => "light"
  | dark => "dark"
  | auto => "auto"

def ofName? (name : String) : Option Theme :=
  Text.named? all Theme.name name

end Theme

end Wireframe
