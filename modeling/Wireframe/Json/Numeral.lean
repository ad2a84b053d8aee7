import Wireframe.Json.Basic
import Wireframe.Text.Numeral

/-!
# JSON numerals

A numeral without point and exponent is a whole number if it fits in 64 bits. Any other numeral is
of double precision: as many of its digits as fit in 64 bits are taken as one number, which is then
multiplied or divided by a power of ten. A numeral too large for double precision has no value.
-/

namespace Wireframe.Number

open Text

/-- Takes digits while their value fits in 64 bits; the value, and how many were taken. -/
def takeDigits (value : Nat) : List Char → Nat × Nat
  | [] => (value, 0)
  | c :: cs =>
    let next := digitsValue value [c]
    if next ≤ maxWord then
      let (value, taken) := takeDigits next cs
      (value, taken + 1)
    else (value, 0)

/-- A power of ten. -/
def tenTo (n : Nat) : Float :=
  Float.ofScientific 1 false n

/-- A 64-bit number times a power of ten, in steps whose powers of ten are in range. Below the
reach of two steps the result is zero. -/
def scaled (significand : Nat) (exponent : Int) : Option Float :=
  let x := Float.ofNat significand
  if significand = 0 then some x
  else if 308 < exponent then none
  else if 0 ≤ exponent then
    let product := x * tenTo exponent.toNat
    if product.isInf then none else some product
  else if -308 ≤ exponent then some (x / tenTo (-exponent).toNat)
  else if -616 ≤ exponent then some (x / tenTo 308 / tenTo (-exponent - 308).toNat)
  else some 0

/-- The double-precision number with these digits before and after the point. -/
def double? (negative : Bool) (digits places : List Char) (exponent : Int) : Option Float :=
  let (significand, taken) := takeDigits 0 digits
  let (significand, placesTaken) := takeDigits significand places
  let exponent := exponent + (digits.length - taken : Nat) - placesTaken
  (scaled significand exponent).map fun x => if negative then -x else x

/-- The number of a numeral without point and exponent. -/
def ofDigits? (negative : Bool) (digits : List Char) : Option Number :=
  let value := digitsValue 0 digits
  if negative then
    if 0 < value ∧ value ≤ 0x8000000000000000 then some (.whole (-value))
    else (double? true digits [] 0).map .double
  else
    if value ≤ maxWord then some (.whole value) else (double? false digits [] 0).map .double

/-- The exponent of a numeral, if it has one, and what follows. -/
def spanExponent : List Char → Option (Option Int × List Char)
  | [] => some (none, [])
  | e :: cs =>
    if e = 'e' ∨ e = 'E' then
      let (negative, cs) := takeSign cs
      let (digits, rest) := spanDigits cs
      if digits = [] then none
      else
        let value : Int := digitsValue 0 digits
        some (some (if negative then -value else value), rest)
    else some (none, e :: cs)

/-- The places after a point, if there is one, and what follows. -/
def spanPlaces : List Char → Option (Option (List Char) × List Char)
  | '.' :: cs =>
    let (places, rest) := spanDigits cs
    if places = [] then none else some (some places, rest)
  | cs => some (none, cs)

/-- The number a text starts with, and what follows. -/
def span? (cs : List Char) : Option (Number × List Char) := do
  let (negative, cs) := match cs with
    | '-' :: cs => (true, cs)
    | cs => (false, cs)
  let (digits, rest) := match cs with
    | '0' :: cs => (['0'], cs)
    | cs => spanDigits cs
  if digits = [] then none
  else do
    let (places, rest) ← spanPlaces rest
    let (exponent, rest) ← spanExponent rest
    let value ← match places, exponent with
      | none, none => ofDigits? negative digits
      | places, exponent =>
        (double? negative digits (places.getD []) (exponent.getD 0)).map .double
    return (value, rest)

end Wireframe.Number
