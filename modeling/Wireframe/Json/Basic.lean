import Wireframe.Entries

/-!
# JSON values

The dynamic values of a wireframe: the raw document, sample data, session state and host messages.
A number is a whole number or a double-precision one, and the two never equal each other; objects
keep the order of their keys and are equal whatever that order is.
-/

namespace Wireframe

/-- A number: whole as written, or of double precision. -/
inductive Number where
  | whole (n : Int)
  | double (x : Float)
deriving DecidableEq

inductive Json where
  | null
  | bool (b : Bool)
  | number (n : Number)
  | string (s : String)
  | array (items : List Json)
  | object (fields : List (String × Json))
deriving Inhabited

namespace Number

/-- Whether the number is zero, of either sign. -/
def isZero : Number → Bool
  | whole n => n = 0
  | double x => x.toBits.toNat % 0x8000000000000000 = 0

/-- Numbers of the same kind are equal if they are the same or both zero. -/
def equal : Number → Number → Bool
  | whole m, whole n => m = n
  | double x, double y => x = y || (isZero (.double x) && isZero (.double y))
  | _, _ => false

/-- The double-precision number nearest to this one. -/
def toDouble : Number → Float
  | whole n => if n < 0 then -Float.ofNat n.natAbs else Float.ofNat n.natAbs
  | double x => x

/-- The whole number, if it is one that is not negative. -/
def natural? : Number → Option Nat
  | whole n => if 0 ≤ n then some n.toNat else none
  | double _ => none

@[simp] theorem equal_refl (n : Number) : n.equal n = true := by
  cases n <;> simp [equal]

end Number

namespace Json

/-! ### Equality -/

mutual
/-- Equality up to the order of keys. -/
def equal : Json → Json → Bool
  | null, null => true
  | bool a, bool b => a == b
  | number m, number n => m.equal n
  | string s, string t => s == t
  | array xs, array ys => equalItems xs ys
  | object xs, object ys => xs.length == ys.length && equalFields xs ys
  | _, _ => false

def equalItems : List Json → List Json → Bool
  | [], [] => true
  | x :: xs, y :: ys => equal x y && equalItems xs ys
  | _, _ => false

/-- Whether every field on the left has an equal one on the right. -/
def equalFields : List (String × Json) → List (String × Json) → Bool
  | [], _ => true
  | (key, x) :: xs, ys =>
    (match Entries.get? ys key with
      | some y => equal x y
      | none => false) && equalFields xs ys
end

instance : BEq Json := ⟨equal⟩

/-! ### Views -/

/-- The text of a string. -/
def string? : Json → Option String
  | string s => some s
  | _ => none

/-- The fields of an object. -/
def fields? : Json → Option (Entries Json)
  | object fields => some fields
  | _ => none

/-- The items of an array. -/
def items? : Json → Option (List Json)
  | array items => some items
  | _ => none

/-- A whole number that is not negative. -/
def natural? : Json → Option Nat
  | number n => n.natural?
  | _ => none

/-- A number of either kind, in double precision. -/
def double? : Json → Option Float
  | number n => some n.toDouble
  | _ => none

def isObject : Json → Bool
  | object _ => true
  | _ => false

/-- The field of an object. -/
def get? (json : Json) (key : String) : Option Json :=
  json.fields?.bind (·.get? key)

/-- Whether a condition reads the value as true: all but null, `false`, zero, the empty text and
the text `false`. -/
def isTruthy : Json → Bool
  | null => false
  | bool b => b
  | number n => !n.isZero
  | string s => s ≠ "" && s ≠ "false"
  | array _ => true
  | object _ => true

/-- A whole number that is not negative. -/
def natural (n : Nat) : Json := number (.whole n)

end Json

/-! ### Fields of objects -/

/-- The text under a key, if it is a string. -/
def Entries.string? (fields : Entries Json) (key : String) : Option String :=
  (fields.get? key).bind Json.string?

/-- The fields of a part of a document, if it is an object. -/
def Json.part (root : Entries Json) (key : String) : Entries Json :=
  ((root.get? key).bind fields?).getD []

theorem Json.part_insert_self (root : Entries Json) (key : String) (fields : Entries Json) :
    part (root.insert key (.object fields)) key = fields := by
  rw [part, Entries.get?_insert_self]
  rfl

theorem Json.part_insert_of_ne (root : Entries Json) {key other : String} (value : Json)
    (h : key ≠ other) : part (root.insert key value) other = part root other := by
  rw [part, Entries.get?_insert_of_ne root value h, part]

end Wireframe
