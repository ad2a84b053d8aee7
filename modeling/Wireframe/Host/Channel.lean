import Wireframe.Entries
import Wireframe.Host.Envelope

/-!
# Inbound messages

Handlers for the messages of a host. Only messages from the trusted origin are accepted, and each is
handed to the handlers of its type in the order of their registration.
-/

namespace Wireframe

/-- A registered handler; no two registrations have the same id. -/
structure Subscription where
  kind : String
  id : Nat
deriving DecidableEq, Repr

/-- An accepted message, with the ids of the handlers it was handed to. -/
structure Delivery where
  envelope : Envelope
  handlers : List Nat

structure Channel where
  trustedOrigin : String
  nextId : Nat := 0
  /-- The ids of the handlers by the types of their messages, each list in the order of their
  registration. -/
  handlers : Entries (List Nat) := []
deriving DecidableEq, Repr

namespace Channel

variable (channel : Channel)

/-- The handlers of a type of messages. -/
def handlersOf (kind : String) : List Nat :=
  (channel.handlers.get? kind).getD []

/-- The number of handlers of all types. -/
def handlerCount : Nat :=
  (channel.handlers.flatMap (·.2)).length

/-- Registers a handler for messages of a type. -/
def subscribe (kind : String) : Subscription × Channel :=
  let id := channel.nextId
  ({ kind, id },
    { channel with
      nextId := id + 1
      handlers := channel.handlers.insert kind (channel.handlersOf kind ++ [id]) })

/-- Puts other handlers in the place of those of a type. Without handlers, the type is dropped. -/
def setHandlers (kind : String) (ids : List Nat) : Channel :=
  { channel with
    handlers :=
      if ids.isEmpty then channel.handlers.erase kind else channel.handlers.insert kind ids }

/-- Removes a handler, and says whether it was still registered. -/
def unsubscribe (subscription : Subscription) : Bool × Channel :=
  match channel.handlers.get? subscription.kind with
  | none => (false, channel)
  | some ids =>
    let left := ids.filter (· ≠ subscription.id)
    (left.length ≠ ids.length, channel.setHandlers subscription.kind left)

/-- Removes all handlers. -/
def clear : Channel :=
  { channel with handlers := [] }

/-- The message in some data from an origin, if it is accepted. -/
def accept? (origin : String) (data : Json) : Option Envelope :=
  if origin = channel.trustedOrigin then Envelope.ofJson? data else none

/-- Accepts a message and hands it to its handlers. -/
def receive? (origin : String) (data : Json) : Option Delivery :=
  (channel.accept? origin data).map fun envelope =>
    { envelope, handlers := channel.handlersOf envelope.kind }

theorem trustedOrigin_unsubscribe (subscription : Subscription) :
    (channel.unsubscribe subscription).2.trustedOrigin = channel.trustedOrigin := by
  rw [unsubscribe]
  split <;> rfl

end Channel

end Wireframe
