/-!
# Numerals

Numbers as people write them into text fields: natural numbers of 64 bits, and decimal fractions
with an optional exponent. Signs are optional, leading zeros are allowed, blanks are not.
-/

namespace Wireframe.Text

/-- The value of a hexadecimal digit of either case. -/
def hexDigit? (c : Char) : Option Nat :=
  if '0' ≤ c ∧ c ≤ '9' then some (c.toNat - '0'.toNat)
  else if 'a' ≤ c ∧ c ≤ 'f' then some (c.toNat - 'a'.toNat + 10)
  else if 'A' ≤ c ∧ c ≤ 'F' then some (c.toNat - 'A'.toNat + 10)
  else none

/-- The value of a sequence of decimal digits, after the digits that are worth `start`. -/
def digitsValue (start : Nat) (cs : List Char) : Nat :=
  cs.foldl (fun value c => 10 * value + (c.toNat - '0'.toNat)) start

/-- The digits a text starts with, and the rest. -/
def spanDigits (cs : List Char) : List Char × List Char :=
  (cs.takeWhile Char.isDigit, cs.dropWhile Char.isDigit)

/-- The largest natural number of 64 bits. -/
def maxWord : Nat := 0xFFFFFFFFFFFFFFFF

/-- Drops one leading plus sign. -/
def dropPlus : List Char → List Char
  | '+' :: cs => cs
  | cs => cs

/-- The natural number of 64 bits that is written with at least one digit, after an optional plus
sign. -/
def natural? (text : String) : Option Nat :=
  let cs := dropPlus text.toList
  if cs ≠ [] ∧ cs.all Char.isDigit then
    let value := digitsValue 0 cs
    if value ≤ maxWord then some value else none
  else none

/-- A decimal fraction as it is written. -/
inductive Fraction where
  | finite (negative : Bool) (digits : Nat) (exponent : Int)
  | infinite (negative : Bool)
  | undefined
deriving Repr, DecidableEq

/-- A leading sign, and the rest. -/
def takeSign : List Char → Bool × List Char
  | '-' :: cs => (true, cs)
  | '+' :: cs => (false, cs)
  | cs => (false, cs)

/-- The exponent that ends a fraction; nothing stands for zero. -/
def exponent? : List Char → Option Int
  | [] => some 0
  | e :: cs =>
    if e = 'e' ∨ e = 'E' then
      let (negative, cs) := takeSign cs
      if cs ≠ [] ∧ cs.all Char.isDigit then
        let value := digitsValue 0 cs
        some (if negative then -(value : Int) else value)
      else none
    else none

/-- The fraction that follows a sign: digits with an optional point among them, at least one
digit, and an optional exponent. -/
def unsignedFraction? (negative : Bool) (cs : List Char) : Option Fraction :=
  let (whole, rest) := spanDigits cs
  let (places, rest) := match rest with
    | '.' :: rest => spanDigits rest
    | rest => ([], rest)
  if whole = [] ∧ places = [] then none
  else do
    let exponent ← exponent? rest
    return .finite negative (digitsValue 0 (whole ++ places)) (exponent - places.length)

/-- The fraction written by the whole text. The words `inf`, `infinity` and `nan` are read in any
case. -/
def fraction? (text : String) : Option Fraction :=
  let (negative, cs) := takeSign text.toList
  let word := String.ofList (cs.map Char.toLower)
  if word = "inf" ∨ word = "infinity" then some (.infinite negative)
  else if word = "nan" then some .undefined
  else unsignedFraction? negative cs

example : natural? "+007" = some 7 := by decide
example : natural? "18446744073709551616" = none := by decide
example : fraction? "-.5e3" = some (.finite true 5 2) := by decide
example : fraction? "5." = some (.finite false 5 0) := by decide
example : fraction? "." = none := by decide

end Wireframe.Text
