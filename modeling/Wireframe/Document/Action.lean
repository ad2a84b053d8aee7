import Wireframe.Text.Split

/-!
# Actions

Interactions name the actions they run. A document declares what its actions do; a few need no
declaration, but a declared action of the same name comes before them.
-/

namespace Wireframe

/-- What running an action does. -/
inductive Effect where
  /-- Hands a label to the embedder. -/
  | command (label : String)
  /-- Opens the popup with this id. -/
  | popup (id : String)
  /-- Nothing; the type is kept. -/
  | other (type : String)
deriving DecidableEq, Repr

/-- The name of an action without the optional namespace. -/
def actionName (text : String) : String :=
  (Text.dropStart? "actions." text).getD text

/-- The actions that need no declaration. -/
inductive BuiltinAction where
  | closePopup
  | dismissSnackbar
  | showSnackbar
deriving DecidableEq, Repr

namespace BuiltinAction

def all : List BuiltinAction := [closePopup, dismissSnackbar, showSnackbar]

def name : BuiltinAction → String
  | closePopup => "closePopup"
  | dismissSnackbar => "dismissSnackbar"
  | showSnackbar => "showSnackbar"

def ofName? (name : String) : Option BuiltinAction :=
  all.find? fun action => action.name = name

end BuiltinAction

end Wireframe
