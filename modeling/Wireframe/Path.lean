import Wireframe.Json.Basic
import Wireframe.Text.Split
import Wireframe.Text.Numeral

/-!
# Paths into JSON values

A dotted path names a place in a value: its segments are keys of objects and indices of arrays.
Reading a place that is not there gives nothing; writing one makes the objects on the way.
-/

namespace Wireframe

/-- The segments of a dotted path. -/
structure Path where
  segments : List String
deriving DecidableEq, Repr, Inhabited

namespace Path

/-- Reads a dotted path. Blanks around segments do not count, and empty segments are dropped. -/
def parse (text : String) : Path :=
  ⟨(Text.splitChars '.' text.toList).filterMap fun piece =>
    match Text.trimChars piece with
    | [] => none
    | segment => some (String.ofList segment)⟩

/-- The segments with points between them. -/
def display (path : Path) : String :=
  ".".intercalate path.segments

/-- The path without segments, which names the whole value. -/
def isRoot (path : Path) : Bool :=
  path.segments.isEmpty

/-- The index that a segment names in an array. -/
def index? (segment : String) : Option Nat :=
  Text.natural? segment

end Path

namespace Json

/-- The part of a value that a segment names. -/
def part? : Json → String → Option Json
  | object fields, key => Entries.get? fields key
  | array items, segment => (Path.index? segment).bind (items[·]?)
  | _, _ => none

/-- Follows segments one after the other. -/
def follow (json : Json) : List String → Option Json
  | [] => some json
  | segment :: rest => (json.part? segment).bind (·.follow rest)

/-- The value at a path. -/
def lookup (json : Json) (path : Path) : Option Json :=
  json.follow path.segments

/-- Writes a value below an object, making the field if it is missing. -/
def writeField (write : Json → Json) (fields : Entries Json) (key : String) : Json :=
  object (fields.insert key (write ((fields.get? key).getD null)))

/-- Writes `value` at the end of the segments. An item of an array is replaced where the segment is
an index in range; anything else that is no object becomes one. -/
def write (value : Json) : List String → Json → Json
  | [], _ => value
  | segment :: rest, array items =>
    match (Path.index? segment).bind fun i => (items[i]?).map (i, ·) with
    | some (i, item) => array (items.set i (write value rest item))
    | none => writeField (write value rest) [] segment
  | segment :: rest, object fields => writeField (write value rest) fields segment
  | segment :: rest, _ => writeField (write value rest) [] segment

/-- The value with `new` written at a path. -/
def assign (json : Json) (path : Path) (new : Json) : Json :=
  write new path.segments json

@[simp] theorem follow_cons (json : Json) (segment : String) (rest : List String) :
    json.follow (segment :: rest) = (json.part? segment).bind (·.follow rest) := rfl

end Json

example : Path.parse " a .. b.0 " = ⟨["a", "b", "0"]⟩ := by decide

end Wireframe
