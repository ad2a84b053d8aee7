import Wireframe.Host.Channel
import Wireframe.Text.Quoted

/-!
# The host adapter

What connects a preview to its host: the channel that messages come in by, and the sink that they go
out by. A sink may refuse a post. Until one is connected, messages to the host are dropped.
-/

namespace Wireframe

/-- Why a message did not reach the host. -/
inductive HostError where
  | noWindow
  | notEmbedded
  | postFailed (reason : String)
deriving DecidableEq, Repr

def HostError.message : HostError → String
  | noWindow => "Host adapter can only run in a browser context"
  | notEmbedded => "Host adapter expects to run inside an embedding iframe"
  | postFailed reason => "Failed to post message to host: " ++ reason

/-- Where messages to the host go. -/
structure Sink where
  /-- Why the sink refuses the post with this number, if it does. -/
  refusal : Nat → Option HostError
  /-- The number of posts so far, refused ones too. -/
  posts : Nat := 0

/-- The sink that takes so many messages and refuses the others. -/
def Sink.failingAfter (count : Nat) (error : HostError) : Sink :=
  { refusal := fun n => if n < count then none else some error }

/-- The sink that takes every message. -/
def Sink.accepting : Sink := { refusal := fun _ => none }

structure Adapter where
  sink : Option Sink := none
  channel : Channel
  /-- All messages that sinks have taken. -/
  posted : List Envelope := []

namespace Adapter

/-- An adapter without a sink and without handlers. -/
def ofOrigin (trustedOrigin : String) : Adapter := { channel := { trustedOrigin } }

def isConnected (adapter : Adapter) : Bool := adapter.sink.isSome

/-- Posts a message to the sink. -/
def send (message : Outbound) (adapter : Adapter) : Except HostError Unit × Adapter :=
  match adapter.sink with
  | some sink =>
    let adapter := { adapter with sink := some { sink with posts := sink.posts + 1 } }
    match sink.refusal sink.posts with
    | some error => (.error error, adapter)
    | none => (.ok (), { adapter with posted := adapter.posted ++ [message.envelope] })
  | none => (.ok (), adapter)

/-- Posts messages until one is refused. -/
def sendAll : List Outbound → Adapter → Except HostError Unit × Adapter
  | [], adapter => (.ok (), adapter)
  | message :: messages, adapter =>
    match adapter.send message with
    | (.ok (), adapter) => sendAll messages adapter
    | (.error error, adapter) => (.error error, adapter)

/-- Connects a sink. -/
def attach (sink : Sink) (adapter : Adapter) : Adapter :=
  { adapter with sink := some sink }

/-- Connects a sink and tells the host that the preview is ready. -/
def connect (sink : Sink) (now : Float) (adapter : Adapter) : Except HostError Unit × Adapter :=
  (adapter.attach sink).send (.ready now)

/-- Drops the sink and all handlers. -/
def disconnect (adapter : Adapter) : Adapter :=
  { adapter with sink := none, channel := adapter.channel.clear }

/-- A line that says what the adapter holds. -/
def describe (adapter : Adapter) : String :=
  "HostAdapter \x7b connected: " ++ (if adapter.isConnected then "true" else "false")
    ++ ", channel: HostChannel \x7b trusted_origin: "
    ++ Text.quoted adapter.channel.trustedOrigin
    ++ ", handlers: " ++ Nat.repr adapter.channel.handlerCount ++ " \x7d \x7d"

end Adapter

end Wireframe
