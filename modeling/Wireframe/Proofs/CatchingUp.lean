import Wireframe.Proofs.Autoplay

/-!
# The end of catching up

Catching up goes from round to round until nothing is due. For a player that plays this comes to an
end below the largest time, and only there: at the largest time the next step is due at once, after
every step again (`Player.catchesUp_iff`).
-/

namespace Wireframe

namespace Player

/-- The player after some rounds of catching up. -/
def rounds (now : Nat) : Nat → Player → Player
  | 0, player => player
  | count + 1, player => rounds now count (player.round now).1

/-- Whether catching up comes to a round in which nothing is due. -/
def CatchesUp (now : Nat) (player : Player) : Prop :=
  ∃ count, ((player.rounds now count).timers.advance now).1 = []

variable {player : Player} {id due now : Nat}

/-- Where catching up ends, a round was the last in which nothing was due. -/
lemma exists_rounds_of_catchUp {steps total : Nat} {last : Player}
    (h : player.catchUp now steps = some (last, total)) :
    ∃ count, ((player.rounds now count).timers.advance now).1 = []
      ∧ last = player.rounds now (count + 1) := by
  induction hleft : player.timers.overdue now using Nat.strong_induction_on
    generalizing player steps with
  | _ left ih =>
    rw [catchUp_eq] at h
    split at h
    · next hnil =>
      cases h
      exact ⟨0, List.isEmpty_iff.mp hnil, rfl⟩
    · split at h
      · next hpasses =>
        obtain ⟨count, hnil, hlast⟩ := ih _ (hleft ▸ hpasses) h rfl
        exact ⟨count + 1, hnil, hlast⟩
      · cases h

/-- At the largest time, the next step is due after any number of rounds. -/
lemma Plays.rounds (h : player.Plays id due) (hclock : Text.maxWord ≤ max player.timers.clock now)
    (count : Nat) : ((player.rounds now count).timers.advance now).1 ≠ [] := by
  induction count generalizing player id due with
  | zero =>
    rw [Player.rounds, h.advance_of_le (h.due_le.trans hclock)]
    exact List.cons_ne_nil _ _
  | succ count ih =>
    rw [Player.rounds, h.round_of_le (h.due_le.trans hclock)]
    exact ih h.moved_one (by rwa [clock_moved])

lemma Plays.not_catchesUp (h : player.Plays id due)
    (hclock : Text.maxWord ≤ max player.timers.clock now) : ¬player.CatchesUp now :=
  fun ⟨count, hnil⟩ => h.rounds hclock count hnil

lemma catchesUp_of_advance {last : Player} {steps : Nat}
    (h : player.advance now = some (last, steps)) : player.CatchesUp now := by
  obtain ⟨count, hnil, -⟩ := exists_rounds_of_catchUp h
  exact ⟨count, hnil⟩

/-- In whatever way a player was used, catching up with a time comes to an end if the player rests, or
else if the clock stays below the largest time; at the largest time a player that plays never catches
up. Moving the clock has a result just where there is an end, and it is the player after the last
round. -/
theorem catchesUp_iff {player : Player} (h : player.Reachable) (now : Nat) :
    (player.CatchesUp now
        ↔ (player.playing = true → max player.timers.clock now < Text.maxWord))
      ∧ ((player.advance now).isSome = true ↔ player.CatchesUp now)
      ∧ ∀ last steps, player.advance now = some (last, steps) →
        ∃ count, ((player.rounds now count).timers.advance now).1 = []
          ∧ last = player.rounds now (count + 1) := by
  have hsome : (player.advance now).isSome = true → player.CatchesUp now := by
    intro hsome
    obtain ⟨⟨last, steps⟩, hadvance⟩ := Option.isSome_iff_exists.mp hsome
    exact catchesUp_of_advance hadvance
  have hends : (player.playing = true → max player.timers.clock now < Text.maxWord) →
      (player.advance now).isSome = true := by
    intro hclock
    rcases h.inStep with hrests | ⟨id, due, hplays⟩
    · rw [advance, hrests.catchUp]
      rfl
    · rw [hplays.advance (hclock hplays.playing)]
      rfl
  have hclock : player.CatchesUp now →
      player.playing = true → max player.timers.clock now < Text.maxWord := by
    intro hcatches hplaying
    obtain ⟨id, due, hplays⟩ := h.plays hplaying
    by_contra hge
    exact hplays.not_catchesUp (Nat.le_of_not_lt hge) hcatches
  exact ⟨⟨hclock, fun hlt => hsome (hends hlt)⟩, ⟨hsome, fun hcatches => hends (hclock hcatches)⟩,
    fun last steps hadvance => exists_rounds_of_catchUp hadvance⟩

/-- Up to the time before the largest one, a player with the shortest interval catches up. -/
theorem catchesUp_iff_deck :
    ∃ document player, Document.ofJson? Json.deck = .ok document
      ∧ player = ofDocument document 0 true
      ∧ player.Reachable ∧ player.playing = true
      ∧ player.CatchesUp (Text.maxWord - 1)
      ∧ (player.advance (Text.maxWord - 1)).isSome = true
      ∧ ¬player.CatchesUp Text.maxWord := by
  obtain ⟨document, player, hload, hplayer, hplaying, hclock⟩ :
      ∃ document player, Document.ofJson? Json.deck = .ok document
        ∧ player = ofDocument document 0 true
        ∧ player.playing = true
        ∧ player.timers.clock = 0 :=
    ⟨_, _, rfl, rfl, rfl, rfl⟩
  have hreachable : player.Reachable := hplayer ▸ .new document 0 true
  have hcatches : player.CatchesUp (Text.maxWord - 1) :=
    (catchesUp_iff hreachable _).1.mpr fun _ => by rw [hclock]; decide
  refine ⟨document, player, hload, hplayer, hreachable, hplaying, hcatches,
    (catchesUp_iff hreachable _).2.1.mpr hcatches, fun hends => ?_⟩
  have hlt := (catchesUp_iff hreachable _).1.mp hends hplaying
  rw [hclock] at hlt
  exact absurd hlt (by decide)

/-- A player with the longest interval takes one step at the largest time and then another one, and so
on: each is due at once. -/
theorem not_catchesUp_deck :
    ∃ document player, Document.ofJson? Json.deck = .ok document
      ∧ player = ofDocument document Text.maxWord true
      ∧ player.Reachable
      ∧ ¬player.CatchesUp Text.maxWord
      ∧ player.advance Text.maxWord = none := by
  obtain ⟨document, player, hload, hplayer, hplaying⟩ :
      ∃ document player, Document.ofJson? Json.deck = .ok document
        ∧ player = ofDocument document Text.maxWord true
        ∧ player.playing = true :=
    ⟨_, _, rfl, rfl, rfl⟩
  have hreachable : player.Reachable := hplayer ▸ .new document Text.maxWord true
  obtain ⟨id, due, hplays⟩ := hreachable.plays hplaying
  have hclock : Text.maxWord ≤ max player.timers.clock Text.maxWord := Nat.le_max_right _ _
  exact ⟨document, player, hload, hplayer, hreachable, hplays.not_catchesUp hclock,
    hplays.catchUp_eq_none hclock 0⟩

end Player

end Wireframe
