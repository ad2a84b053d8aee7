import Wireframe.Proofs.Autoplay

/-!
# States of the player

In whatever way a player was used, it stands on a component if there is one. It plays just when it waits
for a timer, which is then the only one there is. Going on and going back undo each other, also from the
last component to the first (`Player.state_run`).
-/

namespace Wireframe

namespace Player

variable {player : Player} {components : List String}

/-- Does one thing after the other; `none` where there is no end to one of them. -/
def run? (player : Player) : List Operation → Option Player
  | [] => some player
  | operation :: operations => (player.perform? operation).bind fun next => next.run? operations

lemma Reachable.run? (h : player.Reachable) {operations : List Operation} {last : Player}
    (hrun : player.run? operations = some last) : last.Reachable := by
  induction operations generalizing player with
  | nil =>
    cases hrun
    exact h
  | cons operation operations ih =>
    obtain ⟨next, hperform, hrun⟩ := Option.bind_eq_some_iff.mp hrun
    exact ih (.step operation h hperform) hrun

/-! ### Components -/

/-- Whether a player steps through these components. If there are none, it stays where it begins. -/
structure StepsThrough (components : List String) (player : Player) : Prop where
  ids : player.ids = components
  index : components = [] → player.index = 0

namespace StepsThrough

lemma next (h : player.StepsThrough components) : player.next.StepsThrough components := by
  unfold Player.next
  split
  · exact h
  · next hids => exact ⟨h.ids, fun hnil => absurd (h.ids.trans hnil) (by simpa using hids)⟩

lemma previous (h : player.StepsThrough components) : player.previous.StepsThrough components := by
  unfold Player.previous
  split
  · exact h
  · next hids => exact ⟨h.ids, fun hnil => absurd (h.ids.trans hnil) (by simpa using hids)⟩

lemma setPlaying (h : player.StepsThrough components) (playing : Bool) :
    (player.setPlaying playing).StepsThrough components := by
  unfold Player.setPlaying
  dsimp only
  split <;> exact ⟨h.ids, h.index⟩

lemma press (h : player.StepsThrough components) (key : PlayerKey) :
    ((player.press? key).getD player).StepsThrough components :=
  press_induction (p := StepsThrough components) next previous
    (fun playing h => h.setPlaying playing)
    (fun _ h => ⟨h.ids, h.index⟩) h key

/-- Only a player that plays takes steps, and there are components for it. -/
lemma advance (h : player.StepsThrough components) (hinStep : player.InStep) {now steps : Nat}
    {next : Player} (hadvance : player.advance now = some (next, steps)) :
    next.StepsThrough components := by
  rcases hinStep with hrests | ⟨id, due, hplays⟩
  · rw [Player.advance, hrests.catchUp] at hadvance
    cases hadvance
    exact ⟨h.ids, h.index⟩
  · have hids : components ≠ [] := h.ids ▸ hplays.ids_ne_nil
    rcases Nat.lt_or_ge (max player.timers.clock now) Text.maxWord with hlt | hge
    · rw [hplays.advance hlt] at hadvance
      cases hadvance
      exact ⟨h.ids, fun hnil => absurd hnil hids⟩
    · rw [Player.advance, hplays.catchUp_eq_none hge] at hadvance
      cases hadvance

lemma perform? (h : player.StepsThrough components) (hinStep : player.InStep) {operation : Operation}
    {next : Player} (hperform : player.perform? operation = some next) :
    next.StepsThrough components := by
  cases operation with
  | next => cases hperform; exact h.next
  | previous => cases hperform; exact h.previous
  | setPlaying playing => cases hperform; exact h.setPlaying playing
  | press key => cases hperform; exact h.press key
  | advance now =>
    obtain ⟨⟨_, steps⟩, hadvance, rfl⟩ := Option.map_eq_some_iff.mp hperform
    exact h.advance hinStep hadvance
  | stop => cases hperform; exact ⟨h.ids, h.index⟩

lemma run? (h : player.StepsThrough components) (hreachable : player.Reachable)
    {operations : List Operation} {last : Player} (hrun : player.run? operations = some last) :
    last.StepsThrough components := by
  induction operations generalizing player with
  | nil =>
    cases hrun
    exact h
  | cons operation operations ih =>
    obtain ⟨next, hperform, hrun⟩ := Option.bind_eq_some_iff.mp hrun
    exact ih (h.perform? hreachable.inStep hperform) (.step operation hreachable hperform) hrun

end StepsThrough

lemma stepsThrough_ofDocument (document : Document) (interval : Nat) (autoplay : Bool) :
    (ofDocument document interval autoplay).StepsThrough document.components.keys := by
  have hbegins : StepsThrough document.components.keys
      { ids := document.components.keys, interval } := ⟨rfl, fun _ => rfl⟩
  exact hbegins.setPlaying autoplay

/-! ### Going on and back -/

lemma back_mod {index count : Nat} (h : index < count) :
    ((index + 1) % count + count - 1) % count = index := by
  rcases Nat.lt_or_ge (index + 1) count with hlt | hge
  · rw [Nat.mod_eq_of_lt hlt, Nat.succ_add_sub_one, Nat.add_mod_right, Nat.mod_eq_of_lt h]
  · obtain rfl : count = index + 1 := by omega
    rw [Nat.mod_self, Nat.zero_add, Nat.add_sub_cancel, Nat.mod_eq_of_lt h]

lemma on_mod {index count : Nat} (h : index < count) :
    ((index + count - 1) % count + 1) % count = index := by
  cases index with
  | zero =>
    have hlast : 0 + count - 1 < count := by omega
    have hcount : 0 + count - 1 + 1 = count := by omega
    rw [Nat.mod_eq_of_lt hlast, hcount, Nat.mod_self]
  | succ index =>
    have hbefore : index < count := Nat.lt_of_succ_lt h
    rw [Nat.succ_add_sub_one, Nat.add_mod_right, Nat.mod_eq_of_lt hbefore, Nat.mod_eq_of_lt h]

lemma previous_next_eq (h : player.ids ≠ [] → player.index < player.ids.length) :
    player.next.previous = player := by
  by_cases hids : player.ids = []
  · simp [next, previous, hids]
  · simp [next, previous, hids, back_mod (h hids)]

lemma next_previous_eq (h : player.ids ≠ [] → player.index < player.ids.length) :
    player.previous.next = player := by
  by_cases hids : player.ids = []
  · simp [next, previous, hids]
  · simp [next, previous, hids, on_mod (h hids)]

/-! ### Every use -/

lemma InStep.playing_iff (h : player.InStep) :
    player.playing = true ↔ player.pending.isSome = true := by
  rcases h with hrests | ⟨id, due, hplays⟩
  · simp [hrests.playing, hrests.pending]
  · simp [hplays.playing, hplays.pending]

lemma InStep.timers_eq (h : player.InStep) :
    player.timers.pending.map Timer.id = player.pending.toList := by
  rcases h with hrests | ⟨id, due, hplays⟩
  · simp [hrests.timers, hrests.pending]
  · simp [hplays.timers, hplays.pending]

/-- Whatever is done to a new player, as long as all of it comes to an end: it stands on one of the
components, or at zero if there are none; it waits for a timer just when it plays, and that is the only
timer; without components it never plays; and a step on and a step back leave it as it was. -/
theorem state_run {document : Document} {interval : Nat} {autoplay : Bool}
    {operations : List Operation} {player : Player}
    (h : (ofDocument document interval autoplay).run? operations = some player) :
    (document.components ≠ [] → player.index < document.components.length)
      ∧ (document.components = [] → player.index = 0)
      ∧ player.current? = document.components.keys[player.index]?
      ∧ (player.current?.isSome = true ↔ document.components ≠ [])
      ∧ (player.playing = true ↔ player.pending.isSome = true)
      ∧ player.timers.pending.map Timer.id = player.pending.toList
      ∧ (document.components = [] → player.playing = false)
      ∧ player.next.previous = player
      ∧ player.previous.next = player := by
  have hnew := Reachable.new document interval autoplay
  have hinStep := (hnew.run? h).inStep
  obtain ⟨hids, hzero⟩ := (stepsThrough_ofDocument document interval autoplay).run? hnew h
  have hlength : player.ids.length = document.components.length := by
    rw [hids]
    exact List.length_map _
  have hnil : player.ids = [] ↔ document.components = [] := by
    rw [hids]
    exact List.map_eq_nil_iff
  have hindex : document.components ≠ [] → player.index < document.components.length :=
    fun hne => hlength ▸ hinStep.index (mt hnil.mp hne)
  refine ⟨hindex, fun hempty => hzero (hids ▸ hnil.mpr hempty), ?_, ⟨fun hsome hempty => ?_, ?_⟩,
    hinStep.playing_iff, hinStep.timers_eq, fun hempty => ?_, previous_next_eq hinStep.index,
    next_previous_eq hinStep.index⟩
  · rw [current?, hids]
  · rw [current?, hnil.mpr hempty] at hsome
    cases hsome
  · intro hne
    rw [current?, isSome_getElem?, hlength]
    exact hindex hne
  · rcases hinStep with hrests | ⟨id, due, hplays⟩
    · exact hrests.playing
    · exact absurd (hnil.mpr hempty) hplays.ids_ne_nil

/-- Two steps that a player takes by itself, one back, and a pause. -/
theorem state_run_deck :
    ∃ document player, Document.ofJson? Json.deck = .ok document
      ∧ (ofDocument document 1000 true).run? [.advance 2500, .previous, .press .togglePlay]
        = some player
      ∧ player.index < document.components.length
      ∧ player.current? = some "B"
      ∧ player.timers.pending.map Timer.id = player.pending.toList
      ∧ player.next.previous = player := by
  obtain ⟨document, hload, hplays, hclock, howed, hrest⟩ : ∃ document,
      Document.ofJson? Json.deck = .ok document
        ∧ (ofDocument document 1000 true).Plays 0 1000
        ∧ max (ofDocument document 1000 true).timers.clock 2500 < Text.maxWord
        ∧ owed (ofDocument document 1000 true).interval 1000
          (max (ofDocument document 1000 true).timers.clock 2500) = 2
        ∧ (((ofDocument document 1000 true).moved 2500 2).run?
          [.previous, .press .togglePlay]).map current? = some (some "B") :=
    ⟨_, rfl, ⟨rfl, rfl, rfl, rfl, by decide, by decide⟩, by decide, by decide, by decide⟩
  obtain ⟨player, hrun, hcurrent⟩ := Option.map_eq_some_iff.mp hrest
  have hadvance := hplays.advance hclock
  rw [howed] at hadvance
  have hall : (ofDocument document 1000 true).run? [.advance 2500, .previous, .press .togglePlay]
      = some player := by
    rw [Player.run?, perform?, hadvance]
    exact hrun
  obtain ⟨hindex, -, -, hsome, -, htimers, -, hback, -⟩ := state_run hall
  refine ⟨document, player, hload, hall, hindex (hsome.mp ?_), hcurrent, htimers, hback⟩
  rw [hcurrent, Option.isSome_some]

end Player

end Wireframe
