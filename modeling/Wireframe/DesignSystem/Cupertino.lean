import Wireframe.DesignSystem.Basic

/-!
# The Cupertino design system

Translucent materials, system colors and the San Francisco type scale.
-/

namespace Wireframe.DesignSystem.Cupertino

/-- The color of text on neutral surfaces. -/
def label : String := "#000000"

def separator : String := "#c6c6c8"

def blur : String := "blur(10px) saturate(1.8)"

def hairline : String := "0.5px solid rgba(255, 255, 255, 0.2)"

def displayFont : String := "-apple-system, BlinkMacSystemFont, 'SF Pro Display', sans-serif"

def textFont : String := "-apple-system, BlinkMacSystemFont, 'SF Pro Text', sans-serif"

/-- The material of a level, from none to ultra thick. -/
def material : SurfaceLevel → String
  | .level0 => "transparent"
  | .level1 => "rgba(120, 120, 128, 0.16)"
  | .level2 => "rgba(120, 120, 128, 0.24)"
  | .level3 => "rgba(120, 120, 128, 0.32)"
  | .level4 => "rgba(120, 120, 128, 0.48)"
  | .level5 => "rgba(120, 120, 128, 0.64)"

/-- The system color of a role. -/
def systemColor : ColorRole → Color
  | .primary => Color.opaqueColor 0x00 0x7a 0xff
  | .secondary => Color.opaqueColor 0x58 0x56 0xd6
  | .tertiary => Color.opaqueColor 0xaf 0x52 0xde
  | .error => Color.opaqueColor 0xff 0x3b 0x30
  | .warning => Color.opaqueColor 0xff 0x95 0x00
  | .success => Color.opaqueColor 0x34 0xc7 0x59
  | .surface => Color.opaqueColor 0xff 0xff 0xff
  | .background => Color.opaqueColor 0xf2 0xf2 0xf7

def palette (role : ColorRole) : Palette :=
  let color := systemColor role
  if role.isNeutral then
    { main := color.css, onMain := label, container := material .level1, onContainer := label }
  else
    { main := color.css
      onMain := "#ffffff"
      container := (color.withAlpha 0.15).css
      onContainer := color.css }

def typography : TextStyle → Typography
  | .displayLarge => ⟨displayFont, 34, 400, 41, 0⟩
  | .displayMedium => ⟨displayFont, 28, 400, 34, 0⟩
  | .headlineLarge => ⟨displayFont, 28, 400, 34, 0⟩
  | .displaySmall => ⟨displayFont, 22, 400, 28, 0⟩
  | .headlineMedium => ⟨displayFont, 22, 400, 28, 0⟩
  | .titleLarge => ⟨displayFont, 22, 400, 28, 0⟩
  | .headlineSmall => ⟨displayFont, 20, 400, 25, 0⟩
  | .titleMedium => ⟨displayFont, 20, 400, 25, 0⟩
  | .titleSmall => ⟨textFont, 17, 600, 22, 0⟩
  | .bodyLarge => ⟨textFont, 17, 400, 22, 0⟩
  | .bodyMedium => ⟨textFont, 17, 400, 22, 0⟩
  | .bodySmall => ⟨textFont, 16, 400, 21, 0⟩
  | .labelLarge => ⟨textFont, 16, 400, 21, 0⟩
  | .labelMedium => ⟨textFont, 15, 400, 20, 0⟩
  | .labelSmall => ⟨textFont, 12, 400, 16, 0⟩

/-- A surface of material; raised ones blur what is behind them and have a hairline border. -/
def materialPaint (level : SurfaceLevel) (foreground : String) : Paint :=
  { background := material level
    foreground
    border := if level = .level0 then none else some hairline
    backdropFilter := if level = .level0 then none else some blur }

/-- Accented components are filled with their color or its container, neutral ones with the
material of their level. No surface has a shadow. -/
def paint (style : DecidedStyle) (palette : Palette) : Paint :=
  let neutral := style.colorRole.isNeutral
  let accent := if neutral then label else palette.main
  let plain : Paint :=
    if neutral then materialPaint style.surface label
    else { background := palette.container, foreground := palette.onContainer }
  match style.variant with
  | some .filled =>
    if neutral then plain else { background := palette.main, foreground := palette.onMain }
  | some .tonal => plain
  | some .outlined =>
    { background := "transparent"
      foreground := accent
      border := some ("1px solid " ++ if neutral then separator else palette.main) }
  | some .text => { background := "transparent", foreground := accent }
  | some .elevated => materialPaint style.surface.atLeastOne accent
  | none => plain

def system : DesignSystem :=
  { platform := .ios, palette, typography, paint }

end Wireframe.DesignSystem.Cupertino
