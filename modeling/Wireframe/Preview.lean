import Wireframe.Activity
import Wireframe.Diagnostic.Inspection
import Wireframe.Host.Adapter
import Wireframe.Node.Markup
import Wireframe.Screen.Basic

/-!
# Previews

A mounted preview: a document that is shown and used. Whatever changes the session draws the screen
again and hands its markup to the canvas. Clock and messages come from outside. Once a preview is
torn down, using it changes nothing and is not an error.
-/

namespace Wireframe

/-- Where the markup of a screen goes; it keeps the last one and counts them. -/
structure Canvas where
  html : String := ""
  frames : Nat := 0
deriving DecidableEq, Repr

def Canvas.show (html : String) (canvas : Canvas) : Canvas :=
  { html, frames := canvas.frames + 1 }

def Canvas.clear (canvas : Canvas) : Canvas :=
  { canvas with html := "" }

structure Preview where
  stage : Stage
  activity : Activity
  /-- The screen that was drawn last. -/
  screen : Node
  canvas : Canvas
  diagnostics : List Diagnostic
  host : Adapter
  tornDown : Bool

/-- Why a preview cannot be mounted. -/
inductive MountError where
  /-- There is nothing to show it on. -/
  | missingTarget
deriving DecidableEq, Repr

def MountError.message : MountError → String
  | missingTarget => "render_to_canvas requires a valid mount target"

namespace Preview

/-- Mounts a document on a canvas and shows its first screen. -/
def mount (canvas : Option Canvas) (stage : Stage) : Except MountError Preview :=
  match canvas with
  | some canvas =>
    let activity := stage.start
    let screen := stage.screen activity.session
    .ok
      { stage
        activity
        screen
        canvas := canvas.show screen.html
        diagnostics := stage.inspect
        host := .ofOrigin stage.options.trustedOrigin
        tornDown := false }
  | none => .error .missingTarget

def session (preview : Preview) : Session := preview.activity.session

/-- The markup of the screen. -/
def html (preview : Preview) : String := preview.screen.html

/-- Draws the screen of the session and shows it. -/
def redraw (preview : Preview) : Preview :=
  let screen := preview.stage.screen preview.session
  { preview with screen, canvas := preview.canvas.show screen.html }

/-- Makes a change and draws the screen again. -/
def perform (change : Change) (preview : Preview) : Preview × List Event :=
  if preview.tornDown then (preview, [])
  else
    let (activity, events) := change preview.activity
    ({ preview with activity }.redraw, events)

/-- Makes a change, and draws the screen again only if the change has an event. -/
def performQuietly (change : Change) (preview : Preview) : Preview × List Event :=
  if preview.tornDown then (preview, [])
  else
    let (activity, events) := change preview.activity
    let preview := { preview with activity }
    (if events.isEmpty then preview else preview.redraw, events)

/-! ### Use -/

def selectTab (tab : String) (preview : Preview) : Preview × List Event :=
  preview.performQuietly (preview.stage.selectTab tab)

/-- Runs an action by its name. -/
def invoke (action : String) (preview : Preview) : Preview × List Event :=
  preview.perform (preview.stage.run action)

def closePopup (preview : Preview) : Preview × List Event :=
  preview.performQuietly .closePopup

def showSnackbar (preview : Preview) : Preview × List Event :=
  preview.perform preview.stage.showSnackbar

def dismissSnackbar (preview : Preview) : Preview × List Event :=
  preview.perform .dismissSnackbar

/-- The interaction of a node on the screen. -/
def interaction? (nodeId : String) (preview : Preview) : Option Interaction :=
  (preview.screen.find? nodeId).bind Node.interaction

/-- Activates a node of the screen. -/
def activate (nodeId : String) (preview : Preview) : Preview × List Event :=
  match preview.interaction? nodeId with
  | some (.selectTab tab) => preview.selectTab tab
  | some interaction =>
    match preview.stage.change? interaction with
    | some change => preview.perform change
    | none => (preview, [])
  | none => (preview, [])

/-- Types a text into a field of the screen. -/
def changeText (nodeId text : String) (preview : Preview) : Preview × List Event :=
  match preview.interaction? nodeId with
  | some (.editText target) => preview.perform (.write target (.string text))
  | _ => (preview, [])

/-- Moves the clock. -/
def advance (now : Nat) (preview : Preview) : Preview × List Event :=
  preview.performQuietly (.advance now)

/-! ### Host -/

def subscribe (kind : String) (preview : Preview) : Subscription × Preview :=
  let (subscription, channel) := preview.host.channel.subscribe kind
  (subscription, { preview with host := { preview.host with channel } })

/-- Removes a handler, and says whether it was still registered. -/
def unsubscribe (subscription : Subscription) (preview : Preview) : Bool × Preview :=
  let (found, channel) := preview.host.channel.unsubscribe subscription
  (found, { preview with host := { preview.host with channel } })

/-- How a message from the host is handed to the handlers. -/
def delivery? (origin : String) (data : Json) (preview : Preview) : Option Delivery :=
  if preview.tornDown then none else preview.host.channel.receive? origin data

/-- Takes a message from the host. -/
def receive (origin : String) (data : Json) (preview : Preview) : Preview × List Event :=
  match (preview.delivery? origin data).bind fun delivery =>
    Inbound.ofEnvelope? delivery.envelope with
  | some (.navigate destination) => preview.selectTab destination
  | none => (preview, [])

/-- Sends messages to the host until one is refused. -/
def send (messages : List Outbound) (preview : Preview) : Except HostError Unit × Preview :=
  let (result, host) := preview.host.sendAll messages
  (result, { preview with host })

/-- Connects a sink, and tells the host that the preview is ready, what is shown and how high. -/
def connect (sink : Sink) (now : Float) (preview : Preview) : Except HostError Unit × Preview :=
  { preview with host := preview.host.attach sink }.send
    [.ready now, .rendered preview.stage.document.name now,
      .resize (Float.ofNat preview.stage.options.viewportHeight.toNat)]

/-- Asks the host to go somewhere. -/
def requestNavigation (destination : String) (preview : Preview) : Except HostError Unit × Preview :=
  preview.send [.navigate destination]

/-! ### End -/

/-- Forgets timers, sink and handlers, and clears the canvas. -/
def teardown (preview : Preview) : Preview :=
  if preview.tornDown then preview
  else
    { preview with
      tornDown := true
      activity :=
        { preview.activity with
          timers := preview.activity.timers.clear
          snackbarTimer := none }
      host := preview.host.disconnect
      canvas := preview.canvas.clear }

end Preview

end Wireframe
