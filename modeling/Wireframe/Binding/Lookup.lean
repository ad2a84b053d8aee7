import Wireframe.Binding.Grammar
import Wireframe.Converter
import Wireframe.Json.Printer

/-!
# Resolving bindings

A binding is resolved against the sample data, the state and the current item. A place that is not
there leaves the text as it was written, so that a broken binding can be seen in the preview.
-/

namespace Wireframe

/-- The data a binding can see. -/
structure Context where
  sampleData : Json
  state : Json
  /-- The current item, inside the template of a list. -/
  item : Option Json
  /-- The number of the day that relative dates count from. -/
  today : Int

/-- The text that a string of the data refers to sample data by, if it does. -/
def Json.sampleReference? (value : Json) : Option Path :=
  (value.string?.bind (Text.dropStart? Binding.sampleDataStart)).map Path.parse

namespace Binding

/-- A value of the data, and one step further where it refers to sample data that is there. -/
def follow (context : Context) (value : Json) : Json :=
  match value.sampleReference?.bind context.sampleData.lookup with
  | some inner => inner
  | none => value

/-- The value through the converter with this name; an unknown one changes nothing. -/
def convert (context : Context) (value : Json) (converter : Option String) : Json :=
  match converter.bind Converter.ofName? with
  | some converter => converter.apply context.today value
  | none => value

/-- The value a binding finds. Outside a list, an item binding reads the state. -/
def lookup (context : Context) : Binding → Option Json
  | literal text => some (.string text)
  | sampleData path _ => (context.sampleData.lookup path).map (follow context)
  | state path _ => (context.state.lookup path).map (follow context)
  | item path converter _ =>
    ((context.item.getD context.state).lookup path).map (convert context · converter)

/-- The value a binding finds, or its text. -/
def resolve (context : Context) (binding : Binding) : Json :=
  (binding.lookup context).getD (.string binding.source)

end Binding

/-- The value of a prop: a parsed text, or any other JSON value. -/
inductive PropValue where
  | binding (b : Binding)
  | value (json : Json)
deriving Inhabited

namespace PropValue

/-- The prop of a JSON value. -/
def ofJson : Json → PropValue
  | .string text => binding (Binding.parse text)
  | json => value json

/-- The text of a prop that is a plain text. -/
def literal? : PropValue → Option String
  | binding (.literal text) => some text
  | value (.string text) => some text
  | _ => none

def binding? : PropValue → Option Binding
  | binding b => some b
  | value _ => none

/-- The prop's value in a context. -/
def resolve (context : Context) : PropValue → Json
  | binding b => b.resolve context
  | value json => json

/-- The value of a prop that may be missing. -/
def resolve? (context : Context) : Option PropValue → Json
  | some prop => prop.resolve context
  | none => .null

/-- The text of a prop that may be missing. -/
def text? (context : Context) (prop : Option PropValue) : Option String :=
  prop.map fun prop => (prop.resolve context).display

end PropValue

end Wireframe
