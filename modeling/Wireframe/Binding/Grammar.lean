import Wireframe.Binding.Basic
import Wireframe.Text.Alphanumeric

/-!
# The grammar of bindings

    item     :=  "{" "binding" [ "Path" "=" ] path [ "," "converter" "=" name ] "}"
    sample   :=  "@sampleData." path
    state    :=  "@state." path

Keywords are read in any case, and spaces may stand between the parts of an item binding. A text
that does not match one of the forms as a whole is a literal, so reading never fails.
-/

namespace Wireframe.Binding

/-- A character of a path. -/
def isPathChar (c : Char) : Bool :=
  Text.isAlphanumeric c || c = '_' || c = '-' || c = '.' || c = '$'

/-- A character of a converter's name. -/
def isNameChar (c : Char) : Bool :=
  Text.isAlphanumeric c || c = '_'

/-- A character that may stand between the parts of a binding. -/
def isSpace (c : Char) : Bool :=
  c = ' ' || c = '\t' || c = '\r' || c = '\n'

def dropSpaces (cs : List Char) : List Char :=
  cs.dropWhile isSpace

/-- What follows a word in small letters that is written in any case. -/
def keyword? : List Char → List Char → Option (List Char)
  | [], cs => some cs
  | w :: ws, c :: cs => if c.toLower = w then keyword? ws cs else none
  | _ :: _, [] => none

/-- What follows a character with spaces on both sides. -/
def symbol? (symbol : Char) (cs : List Char) : Option (List Char) :=
  match dropSpaces cs with
  | c :: cs => if c = symbol then some (dropSpaces cs) else none
  | [] => none

/-- What follows the word `binding`: it ends at spaces or right before the closing brace. -/
def opening? : List Char → Option (List Char)
  | '\x7b' :: cs => do
    let cs ← keyword? "binding".toList (dropSpaces cs)
    match cs with
    | c :: rest =>
      if isSpace c then some (dropSpaces rest)
      else if c = '\x7d' then some cs
      else none
    | [] => none
  | _ => none

/-- Drops `Path=`, if it is there. -/
def dropPathKey (cs : List Char) : List Char :=
  match (keyword? "path".toList cs).bind (symbol? '=') with
  | some rest => rest
  | none => cs

/-- The converter's name after the path, and what follows. -/
def converterPart? (cs : List Char) : Option (List Char × List Char) := do
  let cs ← symbol? ',' cs
  let cs ← keyword? "converter".toList cs
  let cs ← symbol? '=' cs
  match cs.takeWhile isNameChar with
  | [] => none
  | name => some (name, cs.dropWhile isNameChar)

/-- The path and the converter of an item binding. -/
def item? (cs : List Char) : Option (List Char × Option (List Char)) := do
  let cs ← opening? cs
  let cs := dropPathKey cs
  let path := cs.takeWhile isPathChar
  let rest := cs.dropWhile isPathChar
  let (converter, rest) := match converterPart? rest with
    | some (name, rest) => (some name, rest)
    | none => (none, rest)
  match dropSpaces rest with
  | ['\x7d'] => some (path, converter)
  | _ => none

/-- The path after a fixed start, if the rest of the text is one. -/
def rootedPath? (start : String) (cs : List Char) : Option (List Char) :=
  if start.toList.isPrefixOf cs then
    let path := cs.drop start.length
    if path ≠ [] ∧ path.all isPathChar then some path else none
  else none

def sampleDataStart : String := "@sampleData."

def stateStart : String := "@state."

/-- The binding a prop text stands for. Blanks around the text do not count. -/
def parse (source : String) : Binding :=
  let cs := Text.trimChars source.toList
  let pathOf (cs : List Char) := Path.parse (String.ofList cs)
  match item? cs with
  | some (path, converter) => item (pathOf path) (converter.map String.ofList) source
  | none =>
    match rootedPath? sampleDataStart cs with
    | some path => sampleData (pathOf path) source
    | none =>
      match rootedPath? stateStart cs with
      | some path => state (pathOf path) source
      | none => literal source

@[simp] theorem source_parse (text : String) : (parse text).source = text := by
  simp only [parse]
  split
  · rfl
  · split
    · rfl
    · split <;> rfl

end Wireframe.Binding
