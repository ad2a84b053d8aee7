import Wireframe.Json.Basic
import Wireframe.Decimal

/-!
# JSON text

Values as compact JSON text. Double-precision numbers have the fewest digits that read back, always
with a point or an exponent.
-/

namespace Wireframe

namespace Number

/-- Numbers whose first digit stands at these powers of ten are written without an exponent. -/
def positionalRange : Int × Int := (-5, 15)

/-- A double-precision number: positional text with at least one place in the middle range, an
exponent outside it; of two equally near digit sequences the even one. -/
def doubleText (x : Float) : List Char :=
  let d := Decimal.shortest .even (doubleCell x)
  let leading := d.exponent + (Decimal.width d.digits - 1 : Nat)
  signOfDouble x ++
    if positionalRange.1 ≤ leading ∧ leading ≤ positionalRange.2 then
      Decimal.positional d ++ (if 0 ≤ d.exponent then ['.', '0'] else [])
    else Decimal.scientific d

def text : Number → String
  | whole n => (if n < 0 then "-" else "") ++ Nat.repr n.natAbs
  | double x => String.ofList (doubleText x)

end Number

namespace Json

/-- A character inside a quoted text. -/
def quotedChar (c : Char) : List Char :=
  match c with
  | '"' => ['\\', '"']
  | '\\' => ['\\', '\\']
  | '\n' => ['\\', 'n']
  | '\r' => ['\\', 'r']
  | '\t' => ['\\', 't']
  | '\x08' => ['\\', 'b']
  | '\x0c' => ['\\', 'f']
  | c =>
    if c.toNat < 32 then
      '\\' :: 'u' :: '0' :: '0' :: [Nat.digitChar (c.toNat / 16), Nat.digitChar (c.toNat % 16)]
    else [c]

/-- A text in quotes. -/
def quoted (s : String) : String :=
  String.ofList ('"' :: s.toList.flatMap quotedChar ++ ['"'])

mutual
/-- Compact text without blanks. -/
def text : Json → String
  | null => "null"
  | bool true => "true"
  | bool false => "false"
  | number n => n.text
  | string s => quoted s
  | array items => "[" ++ String.intercalate "," (itemTexts items) ++ "]"
  | object fields => "\x7b" ++ String.intercalate "," (fieldTexts fields) ++ "\x7d"

def itemTexts : List Json → List String
  | [] => []
  | item :: items => text item :: itemTexts items

def fieldTexts : List (String × Json) → List String
  | [] => []
  | (key, value) :: fields => (quoted key ++ ":" ++ text value) :: fieldTexts fields
end

/-- The text a reader is shown: a string without its quotes, nothing for null. -/
def display : Json → String
  | null => ""
  | string s => s
  | other => other.text

@[simp] theorem display_string (s : String) : (string s).display = s := rfl

end Json

end Wireframe
