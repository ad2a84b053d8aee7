import Wireframe.Document.Loading
import Wireframe.Player
import Mathlib.Logic.Function.Iterate
import Mathlib.Order.Lattice
import Mathlib.Tactic.Common

/-!
# Playing by itself

A player that plays has one timer, the one that was scheduled last; a player that rests has none.
Whatever is done to a player keeps this (`Player.Reachable.inStep`), so that each round of
catching up takes one step and puts the timer off by one interval. Below the largest time the number
of rounds is a quotient, and it makes no difference in how many moves a time is reached
(`Player.advance_of_playing`).
-/

namespace Wireframe

namespace Timers

lemma later_zero {due : Nat} (h : due ≤ Text.maxWord) : later due 0 = due :=
  Nat.min_eq_left h

lemma later_le (time delay : Nat) : later time delay ≤ Text.maxWord :=
  Nat.min_le_right _ _

/-- Two delays are one. -/
lemma later_later (time first second : Nat) :
    later (later time first) second = later time (first + second) := by
  simp only [later]
  omega

/-- Below the largest time a delay moves a time on. -/
lemma lt_later {time delay : Nat} (hdelay : 0 < delay) (htime : time < Text.maxWord) :
    time < later time delay := by
  simp only [later]
  omega

end Timers

namespace Player

/-! ### Uses -/

/-- What is done to a player. -/
inductive Operation where
  | next
  | previous
  | setPlaying (playing : Bool)
  | press (key : PlayerKey)
  | advance (now : Nat)
  | stop

/-- Does something to a player; `none` where there is no end to it. -/
def perform? (player : Player) : Operation → Option Player
  | .next => some player.next
  | .previous => some player.previous
  | .setPlaying playing => some (player.setPlaying playing)
  | .press key => some ((player.press? key).getD player)
  | .advance now => (player.advance now).map (·.1)
  | .stop => some player.stop

/-- Whether some use of a new player leads here. -/
inductive Reachable : Player → Prop where
  | new (document : Document) (interval : Nat) (autoplay : Bool) :
      Reachable (ofDocument document interval autoplay)
  | step {player next : Player} (operation : Operation) (h : Reachable player)
      (hperform : player.perform? operation = some next) : Reachable next

/-- Moves the clock several times; the steps of all moves together. -/
def advanceAll (player : Player) : List Nat → Option (Player × Nat)
  | [] => some (player, 0)
  | now :: later => do
    let (next, steps) ← player.advance now
    let (last, more) ← next.advanceAll later
    return (last, steps + more)

/-! ### The timer of the next step -/

/-- Whether a player rests: it has no timer. -/
structure Rests (player : Player) : Prop where
  playing : player.playing = false
  pending : player.pending = none
  timers : player.timers.pending = []
  index : player.ids ≠ [] → player.index < player.ids.length

/-- Whether a player plays: it has one timer, for its next step, which was scheduled last. -/
structure Plays (player : Player) (id due : Nat) : Prop where
  playing : player.playing = true
  pending : player.pending = some id
  timers : player.timers.pending = [⟨id, due, ()⟩]
  nextId : player.timers.nextId = id + 1
  due_le : due ≤ Text.maxWord
  index : player.index < player.ids.length

variable {player : Player} {id due now : Nat}

lemma Plays.ids_ne_nil (h : player.Plays id due) : player.ids ≠ [] := by
  intro hnil
  have hindex := h.index
  rw [hnil] at hindex
  exact Nat.not_lt_zero _ hindex

/-- The player some steps further, when the clock has come to a time. -/
def moved (now steps : Nat) (player : Player) : Player :=
  { player with
    index := (player.index + steps) % player.ids.length
    timers :=
      { clock := max player.timers.clock now
        nextId := player.timers.nextId + steps
        pending := player.timers.pending.map fun timer =>
          { timer with
            id := timer.id + steps
            due := Timers.later timer.due (steps * max player.interval 1) } }
    pending := player.pending.map (· + steps) }

lemma moved_moved (first second steps more : Nat) (player : Player) :
    (player.moved first steps).moved second more = player.moved (max first second) (steps + more) := by
  simp [moved, Timers.later_later, Nat.add_mul, Nat.add_assoc, Nat.max_assoc, Function.comp_def]

lemma Plays.moved (h : player.Plays id due) (now steps : Nat) :
    (player.moved now steps).Plays (id + steps)
      (Timers.later due (steps * max player.interval 1)) where
  playing := h.playing
  pending := by simp [Player.moved, h.pending]
  timers := by simp [Player.moved, h.timers]
  nextId := by
    simp only [Player.moved, h.nextId]
    omega
  due_le := Timers.later_le _ _
  index := Nat.mod_lt _ (Nat.zero_lt_of_lt h.index)

lemma Plays.moved_one (h : player.Plays id due) :
    (player.moved now 1).Plays (id + 1) (Timers.later due (max player.interval 1)) := by
  have hmoved := h.moved now 1
  rwa [Nat.one_mul] at hmoved

lemma clock_moved (now steps : Nat) (player : Player) :
    max (player.moved now steps).timers.clock now = max player.timers.clock now := by
  simp [Player.moved]

lemma one_le_interval : 1 ≤ max player.interval 1 := Nat.le_max_right _ _

/-! ### Rounds of catching up -/

/-- One round of catching up: the steps that are due, and how many they are. -/
def round (now : Nat) (player : Player) : Player × Nat :=
  let (due, timers) := player.timers.advance now
  { player with timers }.ticks due

/-- Catching up goes on to another round while something is due and the time of it moves on. -/
lemma catchUp_eq (now steps : Nat) (player : Player) :
    player.catchUp now steps
      = if (player.timers.advance now).1.isEmpty then some ((player.round now).1, steps)
        else if (player.round now).1.timers.overdue now < player.timers.overdue now then
          (player.round now).1.catchUp now (steps + (player.round now).2)
        else none := by
  rw [catchUp]
  rfl

lemma Rests.catchUp (h : player.Rests) (now steps : Nat) :
    player.catchUp now steps
      = some ({ player with
          timers := { player.timers with clock := max player.timers.clock now } }, steps) := by
  simp [catchUp_eq, round, Timers.advance, ticks, h.timers]

lemma Plays.advance_of_lt (h : player.Plays id due) (hlt : max player.timers.clock now < due) :
    player.timers.advance now
      = ([], { player.timers with clock := max player.timers.clock now }) := by
  have hdue : ¬due ≤ max player.timers.clock now := Nat.not_le_of_lt hlt
  simp only [Timers.advance, h.timers, List.takeWhile_cons, List.dropWhile_cons, hdue, decide_false]
  rfl

lemma Plays.advance_of_le (h : player.Plays id due) (hle : due ≤ max player.timers.clock now) :
    player.timers.advance now
      = ([⟨id, due, ()⟩],
        { player.timers with clock := max player.timers.clock now, pending := [] }) := by
  simp only [Timers.advance, h.timers, List.takeWhile_cons, List.dropWhile_cons, hle, decide_true]
  rfl

/-- A round in which nothing is due only moves the clock. -/
lemma Plays.round_of_lt (h : player.Plays id due) (hlt : max player.timers.clock now < due) :
    player.round now = (player.moved now 0, 0) := by
  simp [round, h.advance_of_lt hlt, ticks, Player.moved, h.timers, h.pending,
    Timers.later_zero h.due_le, Nat.mod_eq_of_lt h.index]

/-- A round in which the timer is due takes one step. -/
lemma Plays.round_of_le (h : player.Plays id due) (hle : due ≤ max player.timers.clock now) :
    player.round now = (player.moved now 1, 1) := by
  simp [round, h.advance_of_le hle, ticks, tick, next, Player.moved, Timers.scheduleAt, Timers.place,
    h.timers, h.pending, h.playing, h.nextId, h.ids_ne_nil]

lemma Plays.overdue_eq (h : player.Plays id due) (now : Nat) :
    player.timers.overdue now = max player.timers.clock now + 1 - due := by
  simp [Timers.overdue, h.timers]

lemma Plays.catchUp_of_lt (h : player.Plays id due) (hlt : max player.timers.clock now < due)
    (steps : Nat) : player.catchUp now steps = some (player.moved now 0, steps) := by
  rw [catchUp_eq, h.advance_of_lt hlt, h.round_of_lt hlt]
  rfl

lemma Plays.catchUp_of_le (h : player.Plays id due) (hle : due ≤ max player.timers.clock now)
    (steps : Nat) :
    player.catchUp now steps
      = if due < Timers.later due (max player.interval 1) then
          (player.moved now 1).catchUp now (steps + 1)
        else none := by
  have hmoves : (player.moved now 1).timers.overdue now < player.timers.overdue now
      ↔ due < Timers.later due (max player.interval 1) := by
    rw [h.moved_one.overdue_eq, h.overdue_eq, clock_moved]
    omega
  rw [catchUp_eq, h.advance_of_le hle, h.round_of_le hle, if_neg (by simp)]
  simp only [hmoves]

/-! ### Steps that are owed -/

/-- How many steps are owed at a time, if one is due at `due` and the next ones follow each after an
interval, which is at least a millisecond. -/
def owed (interval due clock : Nat) : Nat :=
  if clock < due then 0 else (clock - due) / max interval 1 + 1

lemma owed_eq_zero {interval clock : Nat} (h : clock < due) : owed interval due clock = 0 :=
  if_pos h

lemma lt_of_owed_eq_zero {interval clock : Nat} (h : owed interval due clock = 0) : clock < due := by
  by_contra hle
  rw [owed, if_neg hle] at h
  cases h

lemma le_of_owed_eq_succ {interval clock steps : Nat} (h : owed interval due clock = steps + 1) :
    due ≤ clock := by
  by_contra hlt
  rw [owed_eq_zero (Nat.lt_of_not_le hlt)] at h
  cases h

/-- A step that is due is owed with those that are owed after it. -/
lemma owed_eq_succ {interval clock : Nat} (hdue : due ≤ clock) (hclock : clock < Text.maxWord) :
    owed interval due clock
      = owed interval (Timers.later due (max interval 1)) clock + 1 := by
  have hpos : 1 ≤ max interval 1 := Nat.le_max_right _ _
  rw [owed, if_neg (Nat.not_lt_of_le hdue)]
  by_cases hnext : clock < due + max interval 1
  · have hlater : clock < Timers.later due (max interval 1) := lt_min hnext hclock
    rw [owed_eq_zero hlater, Nat.div_eq_of_lt (by omega)]
  · have hle : due + max interval 1 ≤ clock := Nat.le_of_not_lt hnext
    have hlater : Timers.later due (max interval 1) = due + max interval 1 :=
      Nat.min_eq_left (hle.trans hclock.le)
    rw [hlater, owed, if_neg hnext, Nat.sub_add_eq,
      ← Nat.div_eq_sub_div hpos (Nat.le_sub_of_add_le' hle)]

/-- Below the largest time, catching up takes the steps that are owed. -/
lemma Plays.catchUp (h : player.Plays id due) (hclock : max player.timers.clock now < Text.maxWord)
    (steps : Nat) :
    player.catchUp now steps
      = some (player.moved now (owed player.interval due (max player.timers.clock now)),
          steps + owed player.interval due (max player.timers.clock now)) := by
  induction hmore : owed player.interval due (max player.timers.clock now)
    generalizing player id due steps with
  | zero => exact h.catchUp_of_lt (lt_of_owed_eq_zero hmore) steps
  | succ more ih =>
    have hle := le_of_owed_eq_succ hmore
    have hrest : owed (player.moved now 1).interval (Timers.later due (max player.interval 1))
        (max (player.moved now 1).timers.clock now) = more := by
      rw [clock_moved]
      exact Nat.succ.inj ((owed_eq_succ hle hclock).symm.trans hmore)
    rw [h.catchUp_of_le hle, if_pos (Timers.lt_later one_le_interval (hle.trans_lt hclock)),
      ih h.moved_one (by rwa [clock_moved]) (steps + 1) hrest, moved_moved, Nat.max_self,
      Nat.add_comm 1 more, Nat.add_assoc, Nat.add_comm 1 more]

/-- At the largest time, there is no end to catching up: the time of the next step comes there and
moves on no more. -/
lemma Plays.catchUp_eq_none (h : player.Plays id due)
    (hclock : Text.maxWord ≤ max player.timers.clock now) (steps : Nat) :
    player.catchUp now steps = none := by
  induction hleft : Text.maxWord - due using Nat.strong_induction_on
    generalizing player id due steps with
  | _ left ih =>
    rw [h.catchUp_of_le (h.due_le.trans hclock)]
    split
    · next hmoves =>
      have hcloser : Text.maxWord - Timers.later due (max player.interval 1) < left := by
        have hlater := Timers.later_le due (max player.interval 1)
        omega
      exact ih _ hcloser h.moved_one (by rwa [clock_moved]) _ rfl
    · rfl

/-! ### What every use keeps -/

/-- Whether the timers of a player are in step with it: it rests or plays. -/
def InStep (player : Player) : Prop :=
  player.Rests ∨ ∃ id due, player.Plays id due

lemma InStep.index (h : player.InStep) (hids : player.ids ≠ []) :
    player.index < player.ids.length := by
  rcases h with hrests | ⟨id, due, hplays⟩
  · exact hrests.index hids
  · exact hplays.index

/-- Going to another component does not concern the timer. -/
lemma InStep.withIndex (h : player.InStep) {index : Nat}
    (hindex : player.ids ≠ [] → index < player.ids.length) : { player with index }.InStep := by
  rcases h with hrests | ⟨id, due, hplays⟩
  · exact .inl { hrests with index := hindex }
  · exact .inr ⟨id, due, { hplays with index := hindex hplays.ids_ne_nil }⟩

lemma InStep.next (h : player.InStep) : player.next.InStep := by
  unfold Player.next
  split
  · exact h
  · exact h.withIndex fun hids => Nat.mod_lt _ (List.length_pos_iff.mpr hids)

lemma InStep.previous (h : player.InStep) : player.previous.InStep := by
  unfold Player.previous
  split
  · exact h
  · exact h.withIndex fun hids => Nat.mod_lt _ (List.length_pos_iff.mpr hids)

/-- Starting and stopping forget the timer, and starting schedules another one. -/
lemma InStep.setPlaying_eq (h : player.InStep) (playing : Bool) :
    player.setPlaying playing
      = if playing && !player.ids.isEmpty then
          { player with
            playing := true
            timers :=
              { player.timers with
                nextId := player.timers.nextId + 1
                pending :=
                  [⟨player.timers.nextId, Timers.later player.timers.clock player.interval, ()⟩] }
            pending := some player.timers.nextId }
        else
          { player with
            playing := false
            timers := { player.timers with pending := [] }
            pending := none } := by
  rcases h with hrests | ⟨id, due, hplays⟩
  · simp only [Player.setPlaying, hrests.pending, Timers.schedule, Timers.scheduleAt, hrests.timers]
    split
    · next hplaying => rw [hplaying]; rfl
    · next hplaying => rw [Bool.eq_false_of_not_eq_true hplaying, ← hrests.timers]
  · simp only [Player.setPlaying, hplays.pending, Timers.schedule, Timers.scheduleAt, Timers.cancel,
      hplays.timers, List.eraseP_cons, decide_true]
    split
    · next hplaying => rw [hplaying]; rfl
    · next hplaying => rw [Bool.eq_false_of_not_eq_true hplaying]; rfl

lemma InStep.setPlaying (h : player.InStep) (playing : Bool) :
    (player.setPlaying playing).InStep := by
  rw [h.setPlaying_eq]
  split
  · next hplaying =>
    have hids : player.ids ≠ [] := by
      rw [Bool.and_eq_true, Bool.not_eq_true', List.isEmpty_eq_false_iff] at hplaying
      exact hplaying.2
    exact .inr ⟨_, _, rfl, rfl, rfl, rfl, Timers.later_le _ _, h.index hids⟩
  · exact .inl ⟨rfl, rfl, rfl, h.index⟩

/-- What a step on and back, playing and pausing, and the inspector all keep, every key keeps. -/
lemma press_induction {p : Player → Prop} (next : ∀ {player}, p player → p player.next)
    (previous : ∀ {player}, p player → p player.previous)
    (setPlaying : ∀ {player} playing, p player → p (player.setPlaying playing))
    (inspector : ∀ {player} inspectorVisible, p player → p { player with inspectorVisible })
    (h : p player) (key : PlayerKey) : p ((player.press? key).getD player) := by
  cases key with
  | next =>
    simp only [press?]
    split
    · exact h
    · exact next (setPlaying false h)
  | previous =>
    simp only [press?]
    split
    · exact h
    · exact previous (setPlaying false h)
  | togglePlay => exact setPlaying _ h
  | toggleInspector => exact inspector _ h

lemma InStep.press (h : player.InStep) (key : PlayerKey) :
    ((player.press? key).getD player).InStep := by
  refine press_induction (p := InStep) InStep.next InStep.previous
    (fun playing h => h.setPlaying playing) ?_ h key
  rintro player _ (hrests | ⟨id, due, hplays⟩)
  · exact .inl { hrests with }
  · exact .inr ⟨id, due, { hplays with }⟩

lemma InStep.advance (h : player.InStep) {next : Player} {steps : Nat}
    (hadvance : player.advance now = some (next, steps)) : next.InStep := by
  rw [Player.advance] at hadvance
  rcases h with hrests | ⟨id, due, hplays⟩
  · rw [hrests.catchUp] at hadvance
    cases hadvance
    exact .inl { hrests with }
  · rcases Nat.lt_or_ge (max player.timers.clock now) Text.maxWord with hlt | hge
    · rw [hplays.catchUp hlt] at hadvance
      cases hadvance
      exact .inr ⟨_, _, hplays.moved now _⟩
    · rw [hplays.catchUp_eq_none hge] at hadvance
      cases hadvance

lemma inStep_ofDocument (document : Document) (interval : Nat) (autoplay : Bool) :
    (ofDocument document interval autoplay).InStep := by
  refine InStep.setPlaying (.inl ⟨rfl, rfl, rfl, fun hids => ?_⟩) autoplay
  exact List.length_pos_iff.mpr hids

lemma InStep.perform? (h : player.InStep) {operation : Operation} {next : Player}
    (hperform : player.perform? operation = some next) : next.InStep := by
  cases operation with
  | next => cases hperform; exact h.next
  | previous => cases hperform; exact h.previous
  | setPlaying playing => cases hperform; exact h.setPlaying playing
  | press key => cases hperform; exact h.press key
  | advance now =>
    obtain ⟨⟨_, steps⟩, hadvance, rfl⟩ := Option.map_eq_some_iff.mp hperform
    exact h.advance hadvance
  | stop => cases hperform; exact .inl ⟨rfl, rfl, rfl, h.index⟩

theorem Reachable.inStep (h : player.Reachable) : player.InStep := by
  induction h with
  | new document interval autoplay => exact inStep_ofDocument document interval autoplay
  | step operation _ hperform ih => exact ih.perform? hperform

/-- A player that plays has the timer of its next step. -/
lemma Reachable.plays (h : player.Reachable) (hplaying : player.playing = true) :
    ∃ id due, player.Plays id due := by
  rcases h.inStep with hrests | hplays
  · rw [hrests.playing] at hplaying
    cases hplaying
  · exact hplays

/-! ### Several moves -/

/-- What is owed at a later time is what is owed before, and then from there on. -/
lemma owed_add (interval : Nat) {first second : Nat} (hle : first ≤ second)
    (hsecond : second < Text.maxWord) (hdue : due ≤ Text.maxWord) :
    owed interval due first
        + owed interval (Timers.later due (owed interval due first * max interval 1)) second
      = owed interval due second := by
  induction hsteps : owed interval due first generalizing due with
  | zero => rw [Nat.zero_mul, Timers.later_zero hdue, Nat.zero_add]
  | succ steps ih =>
    have hfirst := le_of_owed_eq_succ hsteps
    rw [owed_eq_succ hfirst (hle.trans_lt hsecond)] at hsteps
    have hrest := ih (Timers.later_le due (max interval 1)) (Nat.succ.inj hsteps)
    rw [Timers.later_later] at hrest
    rw [owed_eq_succ (hfirst.trans hle) hsecond, ← hrest, Nat.succ_mul, Nat.add_comm (max interval 1)]
    omega

lemma Plays.advance (h : player.Plays id due)
    (hclock : max player.timers.clock now < Text.maxWord) :
    player.advance now
      = some (player.moved now (owed player.interval due (max player.timers.clock now)),
          owed player.interval due (max player.timers.clock now)) := by
  rw [Player.advance, h.catchUp hclock, Nat.zero_add]

/-- Two moves of the clock are one to the later time. -/
lemma Plays.advance_advance (h : player.Plays id due) {latest steps : Nat} {next : Player}
    (hclock : max player.timers.clock (max now latest) < Text.maxWord)
    (hadvance : player.advance now = some (next, steps)) :
    (next.advance latest).map (fun (last, more) => (last, steps + more))
      = player.advance (max now latest) := by
  have hle : max player.timers.clock now ≤ max player.timers.clock (max now latest) := by omega
  rw [h.advance (hle.trans_lt hclock)] at hadvance
  cases hadvance
  generalize hsteps : owed player.interval due (max player.timers.clock now) = steps
  have hsecond : max (player.moved now steps).timers.clock latest
      = max player.timers.clock (max now latest) := Nat.max_assoc _ _ _
  have htotal := owed_add player.interval hle hclock h.due_le
  rw [hsteps] at htotal
  rw [(h.moved now steps).advance (by rwa [hsecond]), hsecond, moved_moved, h.advance hclock,
    ← htotal]
  rfl

lemma advanceAll_cons (player : Player) (now : Nat) (later : List Nat) :
    player.advanceAll (now :: later)
      = (player.advance now).bind fun (next, steps) =>
          (next.advanceAll later).map fun (last, more) => (last, steps + more) := by
  rw [advanceAll]
  refine Option.bind_congr fun (next, steps) _ => ?_
  dsimp only
  cases next.advanceAll later <;> rfl

/-- Moves of the clock are one to the latest time. -/
lemma Plays.advanceAll (h : player.Plays id due) {nows : List Nat} (hne : nows ≠ [])
    (hclock : max player.timers.clock (nows.foldr max 0) < Text.maxWord) :
    player.advanceAll nows = player.advance (nows.foldr max 0) := by
  induction nows generalizing player id due with
  | nil => exact absurd rfl hne
  | cons now nows ih =>
    rw [List.foldr_cons] at hclock ⊢
    have hfirst : max player.timers.clock now < Text.maxWord := by omega
    have hadvance := h.advance hfirst
    rw [advanceAll_cons, hadvance]
    dsimp only [Option.bind_some]
    cases nows with
    | nil => simpa [Player.advanceAll] using hadvance.symm
    | cons later nows =>
      rw [← h.advance_advance hclock hadvance, ih (h.moved now _) (List.cons_ne_nil later nows)]
      rwa [Player.moved, Nat.max_assoc]

end Player

/-- A document with three components. -/
def Json.deck : Json :=
  .object
    [("components", .object
      [("A", .object [("type", .string "Label"), ("text", .string "a")]),
        ("B", .object [("type", .string "Label"), ("text", .string "b")]),
        ("C", .object [("type", .string "Button")])])]

namespace Player

/-- A player that plays has one timer, that of its next step. Moved to a time below the largest one, it
takes the steps that are owed by then: none if the timer is not due, and else one and another for each
interval since. It goes on by so many components, and its timer is put off by so many intervals. Moving
the clock several times comes to the same player with the same number of steps as moving it once to
the latest time. -/
theorem advance_of_playing {player : Player} (h : player.Reachable) (hplaying : player.playing = true) :
    ∃ timer, player.timers.pending = [timer] ∧ player.pending = some timer.id
      ∧ (∀ now steps, max player.timers.clock now < Text.maxWord →
        steps = (if max player.timers.clock now < timer.due then 0
          else (max player.timers.clock now - timer.due) / max player.interval 1 + 1) →
        player.advance now
          = some
            ({ player with
                index := (player.index + steps) % player.ids.length
                timers :=
                  { clock := max player.timers.clock now
                    nextId := player.timers.nextId + steps
                    pending :=
                      [⟨timer.id + steps,
                        Timers.later timer.due (steps * max player.interval 1), ()⟩] }
                pending := some (timer.id + steps) }, steps))
      ∧ ∀ nows, nows ≠ [] → max player.timers.clock (nows.foldr max 0) < Text.maxWord →
        player.advanceAll nows = player.advance (nows.foldr max 0) := by
  obtain ⟨id, due, hplays⟩ := h.plays hplaying
  refine ⟨⟨id, due, ()⟩, hplays.timers, hplays.pending, fun now steps hclock hsteps => ?_,
    fun nows hne hclock => hplays.advanceAll hne hclock⟩
  rw [hplays.advance hclock, ← show steps = owed player.interval due _ from hsteps, Player.moved,
    hplays.timers, hplays.pending]
  rfl

/-- After a gap of five and a half seconds, five steps are taken at once, or two and then three. -/
theorem advance_of_playing_deck :
    ∃ document player, Document.ofJson? Json.deck = .ok document
      ∧ player = ofDocument document 1000 true
      ∧ player.Reachable ∧ player.playing = true
      ∧ (player.advance 5500).map (fun (next, steps) => (next.current?, steps)) = some (some "C", 5)
      ∧ player.advanceAll [2300, 5500, 4000] = player.advance 5500 := by
  obtain ⟨document, player, hload, hplayer, hplaying, hpending, hclock⟩ :
      ∃ document player, Document.ofJson? Json.deck = .ok document
        ∧ player = ofDocument document 1000 true
        ∧ player.playing = true
        ∧ player.timers.pending = [⟨0, 1000, ()⟩]
        ∧ player.timers.clock = 0 :=
    ⟨_, _, rfl, rfl, rfl, rfl, rfl⟩
  have hreachable : player.Reachable := hplayer ▸ .new document 1000 true
  obtain ⟨timer, htimer, hid, hadvance, hall⟩ := advance_of_playing hreachable hplaying
  refine ⟨document, player, hload, hplayer, hreachable, hplaying, ?_, hall _ (by simp) ?_⟩
  · rw [hpending] at htimer
    cases htimer
    rw [hadvance 5500 5 (by rw [hclock]; decide) (by rw [hclock]; cases hload; subst hplayer; decide)]
    cases hload
    subst hplayer
    rfl
  · rw [hclock]
    decide

end Player

end Wireframe
