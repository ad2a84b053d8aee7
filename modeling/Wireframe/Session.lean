import Wireframe.Document.Basic
import Wireframe.Node.Encoding

/-!
# Sessions

What changes while a preview is used: the active tab, the open popup, whether the snackbar is shown,
the working copy of the document's state, and the values of controls that are bound to nothing. Each
change that an embedder may want to know of is an event.
-/

namespace Wireframe

structure Session where
  activeTab : Option String
  openPopup : Option String
  snackbarVisible : Bool
  /-- The working copy of the document's state. -/
  values : Json
  /-- The values of controls without a place in the state, by the ids of their nodes. -/
  locals : Entries Json
  /-- The place in the state that the snackbar's visibility is bound to. -/
  snackbarFlag : Option Path

/-- The place in the state that the snackbar's visibility is bound to. -/
def Document.snackbarFlag? (document : Document) : Option Path := do
  let (_, snackbar) ← document.snackbar?
  let prop ← snackbar.view.get? .visible
  (← prop.binding?).statePath?

namespace Session

/-- The session a document starts in: the first tab is active, nothing is open, and the snackbar is
shown if its flag says so. -/
def initial (document : Document) : Session :=
  let values := match document.state with
    | .null => .object []
    | state => state
  let flag := document.snackbarFlag?
  { activeTab := document.tabs.head?.map Tab.id
    openPopup := none
    snackbarVisible := ((flag.bind values.lookup).map Json.isTruthy).getD false
    values
    locals := []
    snackbarFlag := flag }

/-- Makes a tab active, unless it is already or does not exist. -/
def selectTab? (document : Document) (tab : String) (session : Session) : Option Session :=
  if session.activeTab = some tab ∨ (document.tab? tab).isNone then none
  else some { session with activeTab := some tab }

def withPopup (popup : String) (session : Session) : Session :=
  { session with openPopup := some popup }

/-- Closes the open popup, if there is one. -/
def closePopup? (session : Session) : Option Session :=
  if session.openPopup.isSome then some { session with openPopup := none } else none

/-- Shows or hides the snackbar and writes its flag. -/
def setSnackbar (visible : Bool) (session : Session) : Session :=
  { session with
    snackbarVisible := visible
    values := match session.snackbarFlag with
      | some path => session.values.assign path (.bool visible)
      | none => session.values }

/-- The value a control has written. -/
def value? (session : Session) : Target → Option Json
  | .state path => session.values.lookup (Path.parse path)
  | .local id => session.locals.get? id

def setValue (target : Target) (value : Json) (session : Session) : Session :=
  match target with
  | .state path => { session with values := session.values.assign (Path.parse path) value }
  | .local id => { session with locals := session.locals.insert id value }

end Session

/-- What an embedder is told. -/
inductive Event where
  | tabSelected (tab : String)
  | popupOpened (popup : String)
  | popupClosed
  | snackbarShown
  | snackbarDismissed
  /-- A declared command; its label means nothing to the preview. -/
  | command (action command : String)
  | valueChanged (target : Target) (value : Json)
  /-- Nothing has this name. -/
  | unknownAction (action : String)

namespace Event

def isCommand : Event → Bool
  | command _ _ => true
  | _ => false

/-- What an event says about the session. -/
def replay : Event → Session → Session
  | tabSelected tab, session => { session with activeTab := some tab }
  | popupOpened popup, session => session.withPopup popup
  | popupClosed, session => { session with openPopup := none }
  | snackbarShown, session => session.setSnackbar true
  | snackbarDismissed, session => session.setSnackbar false
  | command _ _, session => session
  | valueChanged target value, session => session.setValue target value
  | unknownAction _, session => session

end Event

/-! ### JSON -/

def Session.toJson (session : Session) : Json :=
  .object
    [("tab", .ofText? session.activeTab), ("popup", .ofText? session.openPopup),
      ("snackbar", .bool session.snackbarVisible), ("values", session.values),
      ("locals", .array (session.locals.map fun (id, value) => .array [.string id, value]))]

def Event.toJson : Event → Json
  | tabSelected tab => .tagged "tabSelected" [("tab", .string tab)]
  | popupOpened popup => .tagged "popupOpened" [("popup", .string popup)]
  | popupClosed => .tagged "popupClosed" []
  | snackbarShown => .tagged "snackbarShown" []
  | snackbarDismissed => .tagged "snackbarDismissed" []
  | command action label =>
    .tagged "command" [("action", .string action), ("command", .string label)]
  | valueChanged target value =>
    .tagged "valueChanged" [("target", target.toJson), ("value", value)]
  | unknownAction action => .tagged "unknownAction" [("action", .string action)]

end Wireframe
