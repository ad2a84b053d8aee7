import Wireframe.Diagnostic.Basic
import Wireframe.Screen.Basic
import Wireframe.Timers

/-!
# The component player

Steps through the components of a document one by one, by key or by itself. Steps that are owed
after a long gap are all taken: each is due a fixed time after the one before it.
-/

namespace Wireframe

/-- The keys the player reacts to. -/
inductive PlayerKey where
  | next
  | previous
  | togglePlay
  | toggleInspector
deriving DecidableEq, Repr

/-- The key that a keyboard calls by this name. -/
def PlayerKey.ofName? : String → Option PlayerKey
  | "ArrowRight" => some next
  | "ArrowLeft" => some previous
  | " " => some togglePlay
  | "Spacebar" => some togglePlay
  | "i" => some toggleInspector
  | "I" => some toggleInspector
  | _ => none

structure Player where
  /-- The ids of the components in the order of their declaration. -/
  ids : List String
  index : Nat := 0
  playing : Bool := false
  inspectorVisible : Bool := false
  /-- The time between two steps in milliseconds. -/
  interval : Nat
  timers : Timers Unit := {}
  /-- The timer of the next step. -/
  pending : Option Nat := none
deriving DecidableEq, Repr

namespace Player

/-- The id of the component that is shown. -/
def current? (player : Player) : Option String := player.ids[player.index]?

/-- Goes on to the next component; after the last comes the first. -/
def next (player : Player) : Player :=
  if player.ids.isEmpty then player
  else { player with index := (player.index + 1) % player.ids.length }

/-- Goes back to the component before. -/
def previous (player : Player) : Player :=
  if player.ids.isEmpty then player
  else { player with index := (player.index + player.ids.length - 1) % player.ids.length }

/-- Starts or stops playing. A player without components never plays. -/
def setPlaying (playing : Bool) (player : Player) : Player :=
  let playing := playing && !player.ids.isEmpty
  let timers := match player.pending with
    | some timer => (player.timers.cancel timer).2
    | none => player.timers
  if playing then
    let (timer, timers) := timers.schedule () player.interval
    { player with playing, timers, pending := some timer }
  else { player with playing, timers, pending := none }

/-- A player of the components of a document, standing on the first. -/
def ofDocument (document : Document) (interval : Nat) (autoplay : Bool) : Player :=
  setPlaying autoplay { ids := document.components.keys, interval }

/-- What a key does; `none` where it changes nothing. -/
def press? (key : PlayerKey) (player : Player) : Option Player :=
  match key with
  | .next => if player.ids.isEmpty then none else some (player.setPlaying false).next
  | .previous => if player.ids.isEmpty then none else some (player.setPlaying false).previous
  | .togglePlay => some (player.setPlaying !player.playing)
  | .toggleInspector => some { player with inspectorVisible := !player.inspectorVisible }

/-- A timer that came due: a step, if it is the timer of the next step. The step after it is owed
one interval later, which is at least a millisecond. -/
def tick (player : Player) (timer : Timer Unit) : Player × Nat :=
  if player.pending = some timer.id ∧ player.playing then
    let player := player.next
    let (id, timers) :=
      player.timers.scheduleAt () (Timers.later timer.due (max player.interval 1))
    ({ player with timers, pending := some id }, 1)
  else (player, 0)

/-- Timers that came due, with the number of steps they made. -/
def ticks (player : Player) : List (Timer Unit) → Player × Nat
  | [] => (player, 0)
  | timer :: rest =>
    let (player, steps) := player.tick timer
    let (player, more) := player.ticks rest
    (player, steps + more)

/-- Takes the steps that are due, until none is. There is no end to them where a step no longer
moves the time at which the one after it is due. -/
def catchUp (now steps : Nat) (player : Player) : Option (Player × Nat) :=
  let (due, timers) := player.timers.advance now
  let (after, more) := { player with timers }.ticks due
  if due.isEmpty then some (after, steps)
  else if after.timers.overdue now < player.timers.overdue now then
    catchUp now (steps + more) after
  else none
termination_by player.timers.overdue now

/-- Moves the clock and takes the steps that are due; `none` where there is no end to them. -/
def advance (now : Nat) (player : Player) : Option (Player × Nat) :=
  player.catchUp now 0

/-- Stops playing and forgets all timers. -/
def stop (player : Player) : Player :=
  { player with playing := false, pending := none, timers := player.timers.clear }

/-- The node of the component that is shown. -/
def frame? (stage : Stage) (session : Session) (player : Player) : Option Node :=
  player.current?.map (stage.single session)

/-- The diagnostics that belong to the component that is shown. -/
def diagnostics (all : List Diagnostic) (player : Player) : List Diagnostic :=
  match player.current? with
  | some id =>
    let location := "components." ++ id
    all.filter fun diagnostic =>
      diagnostic.location = location
        || (Text.dropStart? (location ++ "/") diagnostic.location).isSome
  | none => []

end Player

end Wireframe
