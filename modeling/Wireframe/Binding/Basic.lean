import Wireframe.Path

/-!
# Bindings

What the text of a prop stands for: itself, or a place in the sample data, in the session's state
or in the current item of a list.
-/

namespace Wireframe

/-- A parsed prop text. Every form keeps the text as it was written. -/
inductive Binding where
  | literal (text : String)
  | sampleData (path : Path) (source : String)
  | state (path : Path) (source : String)
  | item (path : Path) (converter : Option String) (source : String)
deriving DecidableEq, Repr, Inhabited

namespace Binding

/-- The text as it was written. -/
def source : Binding → String
  | literal text => text
  | sampleData _ source => source
  | state _ source => source
  | item _ _ source => source

/-- The place in the state that the binding writes back to. -/
def statePath? : Binding → Option Path
  | state path _ => some path
  | _ => none

/-- The name of the converter an item binding asks for. -/
def converter? : Binding → Option String
  | item _ converter _ => converter
  | _ => none

end Binding

end Wireframe
