import Wireframe.Text.Numeral

/-!
# Timers

Timers on a clock that the host moves. Times are milliseconds in 64 bits, and adding to them stops at
the largest one. Timers that come due are handed out in the order of their times, and of their
scheduling where the times are the same. The clock never runs backwards.
-/

namespace Wireframe

/-- A pending timer, or one that came due. -/
structure Timer (α : Type) where
  id : Nat
  /-- When it is due, which may be well before the time at which it is handed out. -/
  due : Nat
  key : α
deriving DecidableEq, Repr

structure Timers (α : Type) where
  clock : Nat := 0
  nextId : Nat := 0
  /-- In the order in which they come due. -/
  pending : List (Timer α) := []
deriving DecidableEq, Repr

namespace Timers

variable {α : Type}

/-- A time so much later, at most the largest one. -/
def later (time delay : Nat) : Nat := min (time + delay) Text.maxWord

/-- Puts a timer behind those that come due no later. -/
def place (timer : Timer α) : List (Timer α) → List (Timer α)
  | [] => [timer]
  | other :: rest =>
    if other.due ≤ timer.due then other :: place timer rest else timer :: other :: rest

/-- Schedules a timer for a time. One for a time in the past is due at once. -/
def scheduleAt (key : α) (due : Nat) (timers : Timers α) : Nat × Timers α :=
  (timers.nextId,
    { timers with
      nextId := timers.nextId + 1
      pending := place ⟨timers.nextId, due, key⟩ timers.pending })

/-- Schedules a timer so much later than the clock. -/
def schedule (key : α) (delay : Nat) (timers : Timers α) : Nat × Timers α :=
  timers.scheduleAt key (later timers.clock delay)

/-- Takes a timer out, and says whether it was still pending. -/
def cancel (id : Nat) (timers : Timers α) : Bool × Timers α :=
  (timers.pending.any (·.id = id),
    { timers with pending := timers.pending.eraseP (·.id = id) })

def clear (timers : Timers α) : Timers α :=
  { timers with pending := [] }

/-- Moves the clock and hands out the timers that are due. -/
def advance (now : Nat) (timers : Timers α) : List (Timer α) × Timers α :=
  let clock := max timers.clock now
  (timers.pending.takeWhile (·.due ≤ clock),
    { timers with clock, pending := timers.pending.dropWhile (·.due ≤ clock) })

/-- How far the clock has run past the timers that are due, counted in full for each of them. -/
def overdue (now : Nat) (timers : Timers α) : Nat :=
  timers.pending.foldr (fun timer total => max timers.clock now + 1 - timer.due + total) 0

end Timers

end Wireframe
