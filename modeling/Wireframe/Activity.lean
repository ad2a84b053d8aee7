import Wireframe.Session
import Wireframe.Stage
import Wireframe.Timers

/-!
# Activity

What goes on in a preview: its session, and the timer that takes its snackbar away. A change of it
comes with the events that tell of it.
-/

namespace Wireframe

structure Activity where
  session : Session
  timers : Timers Unit
  /-- The timer of the snackbar that is shown. -/
  snackbarTimer : Option Nat

/-- A change of what goes on, with its events in order. -/
abbrev Change := Activity → Activity × List Event

namespace Change

/-- The change that does nothing. -/
def nothing : Change := fun activity => (activity, [])

/-- One change after another. -/
def andThen (first second : Change) : Change := fun activity =>
  let (activity, events) := first activity
  let (activity, more) := second activity
  (activity, events ++ more)

/-- The change to a new session, if there is one, with an event. -/
def ofSession? (next : Session → Option Session) (event : Event) : Change := fun activity =>
  match next activity.session with
  | some session => ({ activity with session }, [event])
  | none => (activity, [])

/-- Closes the open popup. -/
def closePopup : Change := ofSession? Session.closePopup? .popupClosed

/-- Opens a popup, whether it is declared or not. -/
def openPopup (popup : String) : Change :=
  ofSession? (fun session => some (session.withPopup popup)) (.popupOpened popup)

/-- Writes the value of a control. Writing the value that is there changes nothing. -/
def write (target : Target) (value : Json) : Change :=
  ofSession?
    (fun session =>
      if session.value? target == some value then none else some (session.setValue target value))
    (.valueChanged target value)

/-- Forgets the timer of the snackbar. -/
def cancelTimer (activity : Activity) : Activity :=
  match activity.snackbarTimer with
  | some timer =>
    { activity with timers := (activity.timers.cancel timer).2, snackbarTimer := none }
  | none => activity

/-- Hides the snackbar. -/
def hideSnackbar : Change :=
  ofSession?
    (fun session =>
      if session.snackbarVisible then some (session.setSnackbar false) else none)
    .snackbarDismissed

/-- Takes the snackbar away before its time. -/
def dismissSnackbar : Change := fun activity => hideSnackbar (cancelTimer activity)

/-- One timer that came due. Only the timer of the snackbar that is shown takes it away. -/
def timeOut (timer : Timer Unit) : Change := fun activity =>
  if activity.snackbarTimer = some timer.id then
    hideSnackbar { activity with snackbarTimer := none }
  else (activity, [])

/-- Moves the clock. -/
def advance (now : Nat) : Change := fun activity =>
  let (due, timers) := activity.timers.advance now
  (due.map timeOut).foldr andThen nothing { activity with timers }

end Change

/-- The duration that a prop gives in milliseconds, as a number or a text. -/
def PropValue.duration? : PropValue → Option Nat
  | .value (.number n) => some n.toDouble.toUInt64.toNat
  | prop => prop.literal?.bind fun text => Text.natural? (Text.trim text)

namespace Stage

variable (stage : Stage)

/-- How long the snackbar is shown; zero is for ever. -/
def snackbarDuration : Nat :=
  let declared := do
    let (_, snackbar) ← stage.document.snackbar?
    (← snackbar.view.get? .duration).duration?
  declared.getD stage.options.snackbarDuration

/-- Starts the timer of the snackbar anew. -/
def startTimer (activity : Activity) : Activity :=
  let activity := Change.cancelTimer activity
  if stage.snackbarDuration = 0 then activity
  else
    let (timer, timers) := activity.timers.schedule () stage.snackbarDuration
    { activity with timers, snackbarTimer := some timer }

/-- What goes on when a preview begins. -/
def start : Activity :=
  let activity : Activity :=
    { session := Session.initial stage.document, timers := {}, snackbarTimer := none }
  if activity.session.snackbarVisible then stage.startTimer activity else activity

def selectTab (tab : String) : Change :=
  .ofSession? (Session.selectTab? stage.document tab) (.tabSelected tab)

/-- Shows the snackbar, if one is declared. -/
def showSnackbar : Change := fun activity =>
  if stage.document.snackbar?.isSome then
    (stage.startTimer { activity with session := activity.session.setSnackbar true },
      [.snackbarShown])
  else (activity, [])

def runBuiltin : BuiltinAction → Change
  | .closePopup => .closePopup
  | .dismissSnackbar => .dismissSnackbar
  | .showSnackbar => stage.showSnackbar

/-- Runs an action by its name. -/
def run (action : String) : Change :=
  let name := actionName action
  match stage.document.action? name with
  | some (.popup popup) => .openPopup popup
  | some (.command label) => fun activity => (activity, [.command name label])
  | some (.other _) => .nothing
  | none =>
    match BuiltinAction.ofName? name with
    | some builtin => stage.runBuiltin builtin
    | none => fun activity => (activity, [.unknownAction name])

/-- Runs an action from the footer of a popup. That finishes the popup, unless the action opened
another one; and a command that was run so is confirmed by the snackbar. -/
def runFromFooter (action : String) : Change := fun activity =>
  let popup := activity.session.openPopup
  let (after, events) := stage.run action activity
  if popup.isSome ∧ after.session.openPopup = popup then
    let confirm := if events.any Event.isCommand then stage.showSnackbar else .nothing
    let (last, more) := Change.closePopup.andThen confirm after
    (last, events ++ more)
  else (after, events)

/-- What activating a node with an interaction changes. Text is changed by typing instead. -/
def change? : Interaction → Option Change
  | .selectTab tab => some (stage.selectTab tab)
  | .invoke action fromPopupFooter =>
    some (if fromPopupFooter then stage.runFromFooter action else stage.run action)
  | .closePopup => some .closePopup
  | .dismissSnackbar => some .dismissSnackbar
  | .snackbarAction action =>
    some (((action.map stage.run).getD .nothing).andThen .dismissSnackbar)
  | .cyclePicker target options current =>
    let next := (current.map fun i => (i + 1) % options.length).getD 0
    some (((options[next]?).map (Change.write target)).getD .nothing)
  | .toggle target current followUp =>
    some ((Change.write target (.bool !current)).andThen
      ((followUp.map stage.run).getD .nothing))
  | .selectRadio target value => some (.write target value)
  | .editText _ => none

end Stage

end Wireframe
