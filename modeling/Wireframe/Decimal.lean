import Wireframe.Text.Numeral

/-!
# Decimal text of binary numbers

A finite binary floating-point number is an exact fraction, and so are the ends of the interval of
reals that round to it. Its shortest text is the decimal with the fewest digits in that interval,
and among those the nearest one. All of it is exact arithmetic on natural numbers; the two widths
of number differ in a `BinaryFormat` only, and the outputs differ in how they lay the digits out.
-/

namespace Wireframe

/-- A decimal fraction: `digits * 10 ^ exponent`. -/
structure Decimal where
  digits : Nat
  exponent : Int
deriving Repr, DecidableEq

/-- The layout of the bits of a binary floating-point number. -/
structure BinaryFormat where
  fractionBits : Nat
  exponentBits : Nat
  /-- The exponent of the last place of the smallest numbers. -/
  leastExponent : Int

namespace BinaryFormat

def single : BinaryFormat := ⟨23, 8, -149⟩

def double : BinaryFormat := ⟨52, 11, -1074⟩

end BinaryFormat

/-- The magnitude of a finite number and the interval that rounds to it, in units of
`2 ^ exponent`: from `value - below` to `value + 2`, with its ends iff `closed`. -/
structure Cell where
  value : Nat
  below : Nat
  exponent : Int
  closed : Bool
deriving Repr, DecidableEq

/-- The cell of the number with these bits. Below a power of two the neighbours are twice as
close, except among the smallest numbers. -/
def BinaryFormat.cell (format : BinaryFormat) (bits : Nat) : Cell :=
  let fraction := bits % Nat.pow 2 format.fractionBits
  let field := bits / Nat.pow 2 format.fractionBits % Nat.pow 2 format.exponentBits
  let significand := if field = 0 then fraction else Nat.pow 2 format.fractionBits + fraction
  { value := 4 * significand
    below := if fraction = 0 ∧ 1 < field then 1 else 2
    exponent := format.leastExponent + (max field 1 - 1 : Nat) - 2
    closed := significand % 2 = 0 }

/-- Which of two equally near decimals is taken. -/
inductive Tie where
  | even
  | up
deriving Repr, DecidableEq

namespace Decimal

/-- The number of digits of a natural number. -/
def width (n : Nat) : Nat :=
  (Nat.toDigits 10 n).length

/-- Without the zeros at the end of its digits. -/
def strip (d : Decimal) : Nat → Decimal
  | 0 => d
  | n + 1 =>
    if d.digits % 10 = 0 ∧ d.digits ≠ 0 then strip ⟨d.digits / 10, d.exponent + 1⟩ n else d

/-- The exponent of the first digit of `value * 2 ^ exponent`. -/
def leadingExponent (value : Nat) (exponent : Int) : Int :=
  let scale := (-exponent).toNat
  (width (value * Nat.pow 2 exponent.toNat * Nat.pow 10 scale / Nat.pow 2 scale) : Int) - 1 - scale

/-- The point of the grid of multiples of `10 ^ place` that lies in the cell nearest its value. -/
def onGrid? (tie : Tie) (cell : Cell) (place : Int) : Option Decimal :=
  let scale := Nat.pow 2 cell.exponent.toNat * Nat.pow 10 (-place).toNat
  let step := Nat.pow 2 (-cell.exponent).toNat * Nat.pow 10 place.toNat
  let value := cell.value * scale
  let lower := (cell.value - cell.below) * scale
  let upper := (cell.value + 2) * scale
  let inside (n : Nat) : Bool :=
    if cell.closed then lower ≤ n * step && n * step ≤ upper
    else lower < n * step && n * step < upper
  let low := value / step
  let high := low + 1
  let lowDistance := value - low * step
  let highDistance := high * step - value
  match inside low, inside high with
  | true, true =>
    if lowDistance < highDistance then some ⟨low, place⟩
    else if highDistance < lowDistance then some ⟨high, place⟩
    else match tie with
      | .up => some ⟨high, place⟩
      | .even => some ⟨if low % 2 = 0 then low else high, place⟩
  | true, false => some ⟨low, place⟩
  | false, true => some ⟨high, place⟩
  | false, false => none

/-- The shortest decimal of the cell: the coarsest grid with a point in it. Seventeen digits are
always enough. -/
def shortest (tie : Tie) (cell : Cell) : Decimal :=
  if cell.value = 0 then ⟨0, 0⟩
  else
    let leading := leadingExponent cell.value cell.exponent
    match (List.range 17).findSome? fun n : Nat => onGrid? tie cell (leading - n) with
    | some d => strip d 20
    | none => ⟨cell.value, cell.exponent⟩

/-- The digits with a point before the last `places` of them. -/
def withPoint (places : Nat) (digits : List Char) : List Char :=
  let padded := List.replicate (places + 1 - digits.length) '0' ++ digits
  padded.take (padded.length - places) ++ '.' :: padded.drop (padded.length - places)

/-- Positional text; a whole number has no point. -/
def positional (d : Decimal) : List Char :=
  let digits := Nat.toDigits 10 d.digits
  if 0 ≤ d.exponent then digits ++ List.replicate d.exponent.toNat '0'
  else withPoint (-d.exponent).toNat digits

/-- Text with one digit before the point and a signed exponent. -/
def scientific (d : Decimal) : List Char :=
  let digits := Nat.toDigits 10 d.digits
  let exponent := d.exponent + (digits.length - 1 : Nat)
  let mantissa := match digits with
    | [] => []
    | [c] => [c]
    | c :: cs => c :: '.' :: cs
  mantissa ++ 'e' :: (if exponent < 0 then '-' else '+') :: Nat.toDigits 10 exponent.natAbs

/-- The cell's value rounded to a number of places; a half goes to the even neighbour. -/
def fixed (places : Nat) (cell : Cell) : List Char :=
  let numerator := cell.value * Nat.pow 2 cell.exponent.toNat * Nat.pow 10 places
  let denominator := Nat.pow 2 (-cell.exponent).toNat
  let low := numerator / denominator
  let rest := numerator % denominator
  let digits :=
    if 2 * rest < denominator ∨ (2 * rest = denominator ∧ low % 2 = 0) then low else low + 1
  if places = 0 then Nat.toDigits 10 digits else withPoint places (Nat.toDigits 10 digits)

end Decimal

/-! ### The two widths -/

/-- The cell of a finite double-precision number. -/
def doubleCell (x : Float) : Cell :=
  BinaryFormat.double.cell x.toBits.toNat

/-- The cell of a finite single-precision number. -/
def singleCell (x : Float32) : Cell :=
  BinaryFormat.single.cell x.toBits.toNat

/-- Whether the sign bit is set, also of a zero. -/
def signOfDouble (x : Float) : List Char :=
  if x.toBits.toNat < 0x8000000000000000 then [] else ['-']

def signOfSingle (x : Float32) : List Char :=
  if x.toBits.toNat < 0x80000000 then [] else ['-']

namespace Decimal

/-- The shortest digits of a single-precision number in positional text; of two equally near digit
sequences the upper one. -/
def singleText (x : Float32) : String :=
  if x.isNaN then "NaN"
  else if x.isInf then String.ofList (signOfSingle x ++ "inf".toList)
  else String.ofList (signOfSingle x ++ positional (shortest .up (singleCell x)))

/-- A single-precision number with a fixed number of places. -/
def fixedText (places : Nat) (x : Float32) : String :=
  if x.isNaN then "NaN"
  else if x.isInf then String.ofList (signOfSingle x ++ "inf".toList)
  else String.ofList (signOfSingle x ++ fixed places (singleCell x))

/-- The double-precision number that has the shortest digits of a finite single-precision one; of two
equally near digit sequences the even one. -/
def widen (x : Float32) : Float :=
  let d := shortest .even (singleCell x)
  let magnitude := Float.ofScientific d.digits (d.exponent < 0) d.exponent.natAbs
  if signOfSingle x = [] then magnitude else -magnitude

end Decimal

/-! ### Reading single-precision numbers -/

/-- The single-precision number nearest to a written fraction. Exponents far outside the range
are decided without their powers of ten. -/
def Text.Fraction.toSingle : Text.Fraction → Float32
  | .undefined => 0 / 0
  | .infinite negative => if negative then -(1 / 0) else 1 / 0
  | .finite negative digits exponent =>
    let size := exponent + Decimal.width digits
    let magnitude : Float32 :=
      if digits = 0 ∨ size < -60 then 0
      else if 60 < size then 1 / 0
      else Float32.ofScientific digits (exponent < 0) exponent.natAbs
    if negative then -magnitude else magnitude

/-- The single-precision number a text writes. -/
def Text.single? (text : String) : Option Float32 :=
  (Text.fraction? text).map Text.Fraction.toSingle

end Wireframe
