import Wireframe.Preview

/-!
# Operations on previews

Everything that can be done to a mounted preview, as values. A use of a preview is then a list of
operations.
-/

namespace Wireframe

inductive Operation where
  | selectTab (tab : String)
  | invoke (action : String)
  | closePopup
  | showSnackbar
  | dismissSnackbar
  | activate (nodeId : String)
  | changeText (nodeId text : String)
  | advance (now : Nat)
  | receive (origin : String) (data : Json)
  | subscribe (kind : String)
  | unsubscribe (subscription : Subscription)
  | connect (sink : Sink) (now : Float)
  | requestNavigation (destination : String)
  | teardown

namespace Preview

/-- Performs an operation. Those that only concern the host have no events. -/
def apply (preview : Preview) : Operation → Preview × List Event
  | .selectTab tab => preview.selectTab tab
  | .invoke action => preview.invoke action
  | .closePopup => preview.closePopup
  | .showSnackbar => preview.showSnackbar
  | .dismissSnackbar => preview.dismissSnackbar
  | .activate nodeId => preview.activate nodeId
  | .changeText nodeId text => preview.changeText nodeId text
  | .advance now => preview.advance now
  | .receive origin data => preview.receive origin data
  | .subscribe kind => ((preview.subscribe kind).2, [])
  | .unsubscribe subscription => ((preview.unsubscribe subscription).2, [])
  | .connect sink now => ((preview.connect sink now).2, [])
  | .requestNavigation destination => ((preview.requestNavigation destination).2, [])
  | .teardown => (preview.teardown, [])

/-- Performs operations one after the other; the events of all of them in order. -/
def run (preview : Preview) : List Operation → Preview × List Event
  | [] => (preview, [])
  | operation :: operations =>
    let (next, events) := preview.apply operation
    let (last, more) := run next operations
    (last, events ++ more)

/-! ### Equations -/

variable (preview : Preview)

@[simp] theorem run_nil : preview.run [] = (preview, []) := rfl

theorem run_cons (operation : Operation) (operations : List Operation) :
    preview.run (operation :: operations) =
      (((preview.apply operation).1.run operations).1,
        (preview.apply operation).2 ++ ((preview.apply operation).1.run operations).2) := rfl

theorem run_append (operations more : List Operation) :
    preview.run (operations ++ more) =
      (((preview.run operations).1.run more).1,
        (preview.run operations).2 ++ ((preview.run operations).1.run more).2) := by
  induction operations generalizing preview with
  | nil => simp
  | cons operation operations ih => simp [run_cons, ih]

end Preview

end Wireframe
