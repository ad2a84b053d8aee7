import Wireframe.DesignSystem.Basic

/-!
# The Material design system

Tinted containers, shadows that grow with the level, and the Roboto type scale, in the light theme.
-/

namespace Wireframe.DesignSystem.Material

def onSurface : String := "#1d1b20"

def outline : String := "#79747e"

def font : String := "Roboto, 'Helvetica Neue', Arial, sans-serif"

/-- The tint of a neutral surface. -/
def surfaceTint : SurfaceLevel → String
  | .level0 => "#fffbfe"
  | .level1 => "#ffffff"
  | .level2 => "#f7f2fa"
  | .level3 => "#f3edf7"
  | .level4 => "#ede6f0"
  | .level5 => "#e6e0e9"

/-- The shadow of a level. -/
def elevation : SurfaceLevel → String
  | .level0 => "none"
  | .level1 => "0px 1px 2px 0px rgba(0, 0, 0, 0.3), 0px 1px 3px 1px rgba(0, 0, 0, 0.15)"
  | .level2 => "0px 1px 2px 0px rgba(0, 0, 0, 0.3), 0px 2px 6px 2px rgba(0, 0, 0, 0.15)"
  | .level3 => "0px 1px 3px 0px rgba(0, 0, 0, 0.3), 0px 4px 8px 3px rgba(0, 0, 0, 0.15)"
  | .level4 => "0px 2px 3px 0px rgba(0, 0, 0, 0.3), 0px 6px 10px 4px rgba(0, 0, 0, 0.15)"
  | .level5 => "0px 4px 4px 0px rgba(0, 0, 0, 0.3), 0px 8px 12px 6px rgba(0, 0, 0, 0.15)"

def palette : ColorRole → Palette
  | .primary => ⟨"#6750a4", "#ffffff", "#eaddff", "#21005d"⟩
  | .secondary => ⟨"#625b71", "#ffffff", "#e8def8", "#1d192b"⟩
  | .tertiary => ⟨"#7d5260", "#ffffff", "#ffd8e4", "#31111d"⟩
  | .error => ⟨"#b3261e", "#ffffff", "#f9dedc", "#410e0b"⟩
  | .warning => ⟨"#7d5700", "#ffffff", "#ffdea6", "#271900"⟩
  | .success => ⟨"#386a20", "#ffffff", "#b7f397", "#042100"⟩
  | .surface => ⟨"#fffbfe", onSurface, "#f3edf7", onSurface⟩
  | .background => ⟨"#fffbfe", onSurface, "#f3edf7", onSurface⟩

def typography : TextStyle → Typography
  | .displayLarge => ⟨font, 57, 400, 64, -0.25⟩
  | .displayMedium => ⟨font, 45, 400, 52, 0⟩
  | .displaySmall => ⟨font, 36, 400, 44, 0⟩
  | .headlineLarge => ⟨font, 32, 400, 40, 0⟩
  | .headlineMedium => ⟨font, 28, 400, 36, 0⟩
  | .headlineSmall => ⟨font, 24, 400, 32, 0⟩
  | .titleLarge => ⟨font, 22, 400, 28, 0⟩
  | .titleMedium => ⟨font, 16, 500, 24, 0.15⟩
  | .titleSmall => ⟨font, 14, 500, 20, 0.1⟩
  | .bodyLarge => ⟨font, 16, 400, 24, 0.5⟩
  | .bodyMedium => ⟨font, 14, 400, 20, 0.25⟩
  | .bodySmall => ⟨font, 12, 400, 16, 0.4⟩
  | .labelLarge => ⟨font, 14, 500, 20, 0.1⟩
  | .labelMedium => ⟨font, 12, 500, 16, 0.5⟩
  | .labelSmall => ⟨font, 11, 500, 16, 0.5⟩

/-- Every surface has a shadow, if only the flat one. Outlined and text components have no surface
and take the role's color for their content, raised ones keep a neutral surface. -/
def paint (style : DecidedStyle) (palette : Palette) : Paint :=
  let neutral := style.colorRole.isNeutral
  let accent := if neutral then onSurface else palette.main
  let level := style.surface
  match style.variant with
  | some .filled =>
    { background := if neutral then surfaceTint level else palette.main
      foreground := if neutral then onSurface else palette.onMain
      shadow := some (elevation level) }
  | some .tonal =>
    { background := palette.container
      foreground := palette.onContainer
      shadow := some (elevation level) }
  | some .outlined =>
    { background := "transparent"
      foreground := accent
      border := some ("1px solid " ++ if neutral then outline else palette.main)
      shadow := some (elevation .level0) }
  | some .text =>
    { background := "transparent"
      foreground := accent
      shadow := some (elevation .level0) }
  | some .elevated =>
    { background := surfaceTint level.atLeastOne
      foreground := accent
      shadow := some (elevation level.atLeastOne) }
  | none =>
    { background := if neutral then surfaceTint level else palette.container
      foreground := if neutral then onSurface else palette.onContainer
      shadow := some (elevation level) }

def system : DesignSystem :=
  { platform := .android, palette, typography, paint }

end Wireframe.DesignSystem.Material
