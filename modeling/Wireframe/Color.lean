import Wireframe.Decimal
import Wireframe.Text.Split

/-!
# Colors

Colors with eight-bit channels and an opacity, read from hexadecimal text and written as CSS.
-/

namespace Wireframe

structure Color where
  red : UInt8
  green : UInt8
  blue : UInt8
  /-- From 0, transparent, to 1, opaque. -/
  alpha : Float32
deriving DecidableEq

namespace Color

def opaqueColor (red green blue : UInt8) : Color := ⟨red, green, blue, 1⟩

def white : Color := opaqueColor 255 255 255

def black : Color := opaqueColor 0 0 0

/-! ### Reading -/

/-- A channel of one digit, which is repeated. -/
def shortChannel? (c : Char) : Option UInt8 :=
  (Text.hexDigit? c).map fun digit => (17 * digit).toUInt8

/-- A channel of two characters: two digits, or a plus sign and a digit. -/
def channel? (c d : Char) : Option UInt8 :=
  if c = '+' then (Text.hexDigit? d).map Nat.toUInt8
  else do
    let high ← Text.hexDigit? c
    let low ← Text.hexDigit? d
    return (16 * high + low).toUInt8

/-- The opacity that an eight-bit channel stands for. -/
def alphaOf (channel : UInt8) : Float32 :=
  channel.toFloat32 / 255

/-- The color of three, six or eight characters. -/
def ofChannels? : List Char → Option Color
  | [r, g, b] => do
    return opaqueColor (← shortChannel? r) (← shortChannel? g) (← shortChannel? b)
  | [r, r', g, g', b, b'] => do
    return opaqueColor (← channel? r r') (← channel? g g') (← channel? b b')
  | [r, r', g, g', b, b', a, a'] => do
    return ⟨← channel? r r', ← channel? g g', ← channel? b b', alphaOf (← channel? a a')⟩
  | _ => none

/-- Reads `#2563eb`, `2563eb`, `#fff` or `#78788033`. Blanks around the text and any number of
leading `#` do not count. -/
def ofHex? (text : String) : Option Color :=
  ofChannels? ((Text.trimChars text.toList).dropWhile (· = '#'))

/-! ### Opacity and contrast -/

/-- The number between 0 and 1 that is nearest. -/
def clampUnit (x : Float32) : Float32 :=
  if x < 0 then 0 else if 1 < x then 1 else x

def withAlpha (color : Color) (alpha : Float32) : Color :=
  { color with alpha := clampUnit alpha }

/-- The linear light of a channel. -/
def linear (channel : UInt8) : Float32 :=
  let c := channel.toFloat32 / 255
  if c ≤ 0.03928 then c / 12.92 else ((c + 0.055) / 1.055).pow 2.4

/-- The relative luminance, from 0 for black to 1 for white. -/
def luminance (color : Color) : Float32 :=
  0.2126 * linear color.red + 0.7152 * linear color.green + 0.0722 * linear color.blue

/-- Black or white, whichever reads better on the color. -/
def contrasting (color : Color) : Color :=
  if 0.4 < color.luminance then black else white

/-! ### Writing -/

/-- The two hexadecimal digits of a channel. -/
def hexText (channel : UInt8) : List Char :=
  [Nat.digitChar (channel.toNat / 16), Nat.digitChar (channel.toNat % 16)]

/-- The opacity with at most two places. -/
def alphaText (alpha : Float32) : String :=
  let digits := (Decimal.fixedText 2 alpha).toList
  String.ofList (Text.dropWhileEnd (· = '.') (Text.dropWhileEnd (· = '0') digits))

/-- CSS text: `#rrggbb` when opaque, `rgba(…)` otherwise. -/
def css (color : Color) : String :=
  if 1 ≤ color.alpha then
    String.ofList ('#' :: (hexText color.red ++ hexText color.green ++ hexText color.blue))
  else
    "rgba(" ++ Nat.repr color.red.toNat ++ ", " ++ Nat.repr color.green.toNat ++ ", "
      ++ Nat.repr color.blue.toNat ++ ", " ++ alphaText color.alpha ++ ")"

example : (ofHex? " ##2563eb").map css = some "#2563eb" := by decide +kernel

end Color

end Wireframe
