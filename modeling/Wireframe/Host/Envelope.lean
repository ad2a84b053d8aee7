import Wireframe.Json.Build

/-!
# Envelopes

The messages between a preview and the page that embeds it. On the wire each one is an object with
the name of the protocol, a type and perhaps a payload; anything else is no message of the protocol.
A payload that is null is not the same as none.
-/

namespace Wireframe

/-- A message in either direction. -/
structure Envelope where
  kind : String
  payload : Option Json

namespace Envelope

/-- The name of the protocol. -/
def protocolName : String := "wirevana"

/-- Reads a message. -/
def ofJson? (data : Json) : Option Envelope := do
  let fields ← data.fields?
  if fields.string? "source" = some protocolName then
    return { kind := ← fields.string? "type", payload := fields.get? "payload" }
  else none

def toJson (envelope : Envelope) : Json :=
  .object <|
    [("source", .string protocolName), ("type", .string envelope.kind)]
      ++ Json.field? "payload" envelope.payload

end Envelope

/-- What a preview tells its host. Times and lengths are double-precision numbers. -/
inductive Outbound where
  | ready (timestamp : Float)
  | resize (height : Float)
  | navigate (destination : String)
  | rendered (name : String) (timestamp : Float)

namespace Outbound

def kind : Outbound → String
  | ready _ => "ready"
  | resize _ => "resize"
  | navigate _ => "navigate"
  | rendered _ _ => "wireframe-rendered"

def payload : Outbound → Json
  | ready timestamp => .object [("timestamp", .ofDouble timestamp)]
  | resize height => .object [("height", .ofDouble height)]
  | navigate destination => .object [("to", .string destination)]
  | rendered name timestamp =>
    .object [("name", .string name), ("timestamp", .ofDouble timestamp)]

def envelope (message : Outbound) : Envelope :=
  { kind := message.kind, payload := some message.payload }

end Outbound

/-- What a host may ask for. -/
inductive Inbound where
  /-- To show the tab with this id. -/
  | navigate (destination : String)
deriving DecidableEq, Repr

/-- Reads what a message asks for, if the preview knows it. -/
def Inbound.ofEnvelope? (envelope : Envelope) : Option Inbound :=
  if envelope.kind = "navigate" then
    ((envelope.payload.bind (·.get? "to")).bind Json.string?).map navigate
  else none

end Wireframe
