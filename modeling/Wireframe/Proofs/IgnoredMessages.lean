import Wireframe.Proofs.Envelopes
import Wireframe.Proofs.Operations

/-!
# Ignored messages

A message counts if it comes from the trusted origin and has the form of the protocol. Any other one
changes nothing, has no events and is handed to no handler; and no operation changes which origin is
trusted. So a use of a preview comes to the same, turn by turn, when the messages that do not count
are left out (`Preview.run_heard`).
-/

namespace Wireframe

/-- Whether data has the form of a message: an object with the protocol as its source and some text
as its type. -/
def Json.IsMessage (data : Json) : Prop :=
  ∃ fields kind, data = .object fields
    ∧ Entries.get? fields "source" = some (.string "wirevana")
    ∧ Entries.get? fields "type" = some (.string kind)

/-- Just the data in the form of a message can be read as one. -/
lemma Envelope.isSome_ofJson?_iff {data : Json} :
    (Envelope.ofJson? data).isSome = true ↔ data.IsMessage := by
  rw [Option.isSome_iff_exists]
  constructor
  · rintro ⟨envelope, henvelope⟩
    obtain ⟨hsource, hkind, -⟩ := ofJson?_eq_some_iff.mp henvelope
    exact ⟨_, _, rfl, hsource, hkind⟩
  · rintro ⟨fields, kind, rfl, hsource, hkind⟩
    exact ⟨⟨kind, Entries.get? fields "payload"⟩, ofJson?_eq_some_iff.mpr (.object hsource hkind rfl)⟩

instance : DecidablePred Json.IsMessage :=
  fun _ => decidable_of_iff _ Envelope.isSome_ofJson?_iff

/-- Whether an operation counts where this origin is trusted: all do but some messages. -/
def Operation.Heard (trusted : String) : Operation → Prop
  | receive origin data => origin = trusted ∧ data.IsMessage
  | _ => True

instance (trusted : String) : DecidablePred (Operation.Heard trusted)
  | .receive origin data => inferInstanceAs (Decidable (origin = trusted ∧ data.IsMessage))
  | .selectTab _ | .invoke _ | .closePopup | .showSnackbar | .dismissSnackbar | .activate _
  | .changeText _ _ | .advance _ | .subscribe _ | .unsubscribe _ | .connect _ _
  | .requestNavigation _ | .teardown => .isTrue trivial

/-- An operation in the use of a preview, with what came of it. -/
structure Turn where
  operation : Operation
  events : List Event
  /-- The handlers that were called, each with the message that it was handed. -/
  calls : List (Nat × Envelope)

/-! ### The trusted origin -/

/-- Sending leaves the channel alone, also where a sink refuses. -/
lemma Adapter.channel_sendAll (adapter : Adapter) (messages : List Outbound) :
    (adapter.sendAll messages).2.channel = adapter.channel := by
  induction messages generalizing adapter with
  | nil => rfl
  | cons message messages ih =>
    have hsend : (adapter.send message).2.channel = adapter.channel := by
      unfold send
      split
      · dsimp only
        split <;> rfl
      · rfl
    unfold sendAll
    split
    · next next heq => rw [ih, ← hsend, heq]
    · next heq => rw [← hsend, heq]

namespace Preview

variable (preview : Preview)

/-- Where messages count from. -/
def trustedOrigin : String := preview.host.channel.trustedOrigin

/-- The handlers that an operation calls, each with the message that it is handed. -/
def calls : Operation → List (Nat × Envelope)
  | .receive origin data =>
    match preview.delivery? origin data with
    | some delivery => delivery.handlers.map fun handler => (handler, delivery.envelope)
    | none => []
  | _ => []

/-- The turns of a use of a preview. -/
def turns (preview : Preview) : List Operation → List Turn
  | [] => []
  | operation :: operations =>
    { operation
      events := (preview.apply operation).2
      calls := preview.calls operation } :: turns (preview.apply operation).1 operations

lemma events_run (operations : List Operation) :
    (preview.run operations).2 = (preview.turns operations).flatMap Turn.events := by
  induction operations generalizing preview with
  | nil => rfl
  | cons operation operations ih => rw [run_cons, turns, List.flatMap_cons, ih]

variable {preview} in
/-- A turn of a run is an operation of it, where the run has come to by then. -/
lemma exists_of_mem_turns {operations : List Operation} {turn : Turn}
    (h : turn ∈ preview.turns operations) :
    ∃ before after, operations = before ++ turn.operation :: after
      ∧ turn.events = ((preview.run before).1.apply turn.operation).2
      ∧ turn.calls = (preview.run before).1.calls turn.operation := by
  induction operations generalizing preview with
  | nil => cases h
  | cons operation operations ih =>
    rcases List.mem_cons.mp h with rfl | hturn
    · exact ⟨[], operations, rfl, rfl, rfl⟩
    · obtain ⟨before, after, rfl, hevents, hcalls⟩ := ih hturn
      exact ⟨operation :: before, after, rfl, hevents, hcalls⟩

lemma host_perform (change : Change) : (preview.perform change).1.host = preview.host := by
  unfold perform
  split <;> rfl

lemma host_performQuietly (change : Change) :
    (preview.performQuietly change).1.host = preview.host := by
  unfold performQuietly
  split
  · rfl
  · dsimp only
    split <;> rfl

lemma host_activate (nodeId : String) : (preview.activate nodeId).1.host = preview.host := by
  unfold activate
  split
  · exact host_performQuietly _ _
  · split
    · exact host_perform _ _
    · rfl
  · rfl

lemma host_changeText (nodeId text : String) :
    (preview.changeText nodeId text).1.host = preview.host := by
  unfold changeText
  split
  · exact host_perform _ _
  · rfl

lemma host_receive (origin : String) (data : Json) :
    (preview.receive origin data).1.host = preview.host := by
  unfold receive
  split
  · exact host_performQuietly _ _
  · rfl

lemma channel_send (messages : List Outbound) :
    (preview.send messages).2.host.channel = preview.host.channel := by
  rw [← preview.host.channel_sendAll messages]
  rfl

lemma channel_connect (sink : Sink) (now : Float) :
    (preview.connect sink now).2.host.channel = preview.host.channel :=
  channel_send { preview with host := preview.host.attach sink } _

lemma trustedOrigin_teardown : preview.teardown.trustedOrigin = preview.trustedOrigin := by
  unfold teardown
  split <;> rfl

/-- No operation changes which origin is trusted. -/
lemma trustedOrigin_apply (operation : Operation) :
    (preview.apply operation).1.trustedOrigin = preview.trustedOrigin := by
  have hkept {next : Preview} (h : next.host.channel = preview.host.channel) :
      next.trustedOrigin = preview.trustedOrigin := by
    rw [trustedOrigin, trustedOrigin, h]
  cases operation with
  | selectTab tab => exact hkept (congrArg _ (preview.host_performQuietly _))
  | invoke action => exact hkept (congrArg _ (preview.host_perform _))
  | closePopup => exact hkept (congrArg _ (preview.host_performQuietly _))
  | showSnackbar => exact hkept (congrArg _ (preview.host_perform _))
  | dismissSnackbar => exact hkept (congrArg _ (preview.host_perform _))
  | activate nodeId => exact hkept (congrArg _ (preview.host_activate nodeId))
  | changeText nodeId text => exact hkept (congrArg _ (preview.host_changeText nodeId text))
  | advance now => exact hkept (congrArg _ (preview.host_performQuietly _))
  | receive origin data => exact hkept (congrArg _ (preview.host_receive origin data))
  | subscribe kind => rfl
  | unsubscribe subscription => exact preview.host.channel.trustedOrigin_unsubscribe subscription
  | connect sink now => exact hkept (preview.channel_connect sink now)
  | requestNavigation destination => exact hkept (preview.channel_send [.navigate destination])
  | teardown => exact preview.trustedOrigin_teardown

lemma trustedOrigin_run (operations : List Operation) :
    (preview.run operations).1.trustedOrigin = preview.trustedOrigin :=
  run_induction (p := fun last => last.trustedOrigin = preview.trustedOrigin)
    (fun last operation h => (last.trustedOrigin_apply operation).trans h) rfl operations

variable {preview}

/-! ### What does not count -/

/-- A message that does not count is not delivered. -/
lemma delivery?_eq_none {origin : String} {data : Json}
    (h : ¬(Operation.receive origin data).Heard preview.trustedOrigin) :
    preview.delivery? origin data = none := by
  have haccept : preview.host.channel.accept? origin data = none := by
    unfold Channel.accept?
    split
    · next htrusted =>
      rw [← Option.not_isSome_iff_eq_none, Envelope.isSome_ofJson?_iff]
      exact fun hmessage => h ⟨htrusted, hmessage⟩
    · rfl
  unfold delivery?
  split
  · rfl
  · rw [Channel.receive?, haccept, Option.map_none]

/-- What does not count changes nothing, has no events and calls no handler. -/
lemma apply_of_not_heard {operation : Operation} (h : ¬operation.Heard preview.trustedOrigin) :
    preview.apply operation = (preview, []) ∧ preview.calls operation = [] := by
  cases operation with
  | receive origin data =>
    have hnone := delivery?_eq_none h
    constructor
    · rw [apply, receive, hnone, Option.bind_none]
    · rw [calls, hnone]
  | _ => exact absurd trivial h

/-- Where an invariant keeps some operations from changing anything, leaving them out of a run leaves
its end as it is, and the other turns. -/
lemma turns_filter_of_idle {p : Preview → Prop} {counts : Operation → Prop} [DecidablePred counts]
    (step : ∀ preview operation, p preview → p (preview.apply operation).1)
    (idle : ∀ preview operation, p preview → ¬counts operation →
      (preview.apply operation).1 = preview)
    (h : p preview) (operations : List Operation) :
    (preview.run (operations.filter counts)).1 = (preview.run operations).1
      ∧ preview.turns (operations.filter counts)
        = (preview.turns operations).filter (counts ·.operation) := by
  induction operations generalizing preview with
  | nil => exact ⟨rfl, rfl⟩
  | cons operation operations ih =>
    obtain ⟨hrun, hturns⟩ := ih (step preview operation h)
    by_cases hcounts : counts operation
    · rw [List.filter_cons_of_pos (by simpa using hcounts)]
      refine ⟨hrun, ?_⟩
      rw [turns, turns, List.filter_cons_of_pos (by simpa using hcounts), hturns]
    · -- nothing happens, so that what follows begins with the same preview
      have hnext := idle preview operation h hcounts
      rw [hnext] at hrun hturns
      rw [List.filter_cons_of_neg (by simpa using hcounts)]
      refine ⟨?_, ?_⟩
      · rw [hrun, run_cons, hnext]
      · rw [turns, List.filter_cons_of_neg (by simpa using hcounts), hnext, hturns]

/-- Leaving out what does not count leaves the end of a run as it is, and the other turns. -/
lemma turns_filter {trusted : String} (h : preview.trustedOrigin = trusted)
    (operations : List Operation) :
    (preview.run (operations.filter (Operation.Heard trusted))).1 = (preview.run operations).1
      ∧ preview.turns (operations.filter (Operation.Heard trusted))
        = (preview.turns operations).filter (·.operation.Heard trusted) := by
  refine turns_filter_of_idle (p := fun last => last.trustedOrigin = trusted) ?_ ?_ h operations
  · intro last operation hlast
    exact (last.trustedOrigin_apply operation).trans hlast
  · intro last operation hlast hheard
    obtain ⟨hnext, -⟩ := apply_of_not_heard (hlast.symm ▸ hheard)
    rw [hnext]

/-- The turns that do not count have no events and no calls. -/
lemma turn_of_not_heard {trusted : String} (h : preview.trustedOrigin = trusted)
    {operations : List Operation} {turn : Turn} (hturn : turn ∈ preview.turns operations)
    (hheard : ¬turn.operation.Heard trusted) : turn.events = [] ∧ turn.calls = [] := by
  obtain ⟨before, after, -, hevents, hcalls⟩ := exists_of_mem_turns hturn
  have htrusted := (preview.trustedOrigin_run before).trans h
  obtain ⟨hnext, hsilent⟩ := apply_of_not_heard (htrusted.symm ▸ hheard)
  exact ⟨hevents.trans (congrArg Prod.snd hnext), hcalls.trans hsilent⟩

end Preview

/-- Leaving out turns from which nothing comes leaves what comes of all of them. -/
lemma Turn.flatMap_filter {α : Type} {turns : List Turn} (kept : Turn → Bool) (f : Turn → List α)
    (h : ∀ turn ∈ turns, kept turn = false → f turn = []) :
    (turns.filter kept).flatMap f = turns.flatMap f := by
  induction turns with
  | nil => rfl
  | cons turn turns ih =>
    obtain ⟨hturn, hturns⟩ := List.forall_mem_cons.mp h
    rw [List.flatMap_cons, ← ih hturns]
    cases hkept : kept turn with
    | true => rw [List.filter_cons_of_pos hkept, List.flatMap_cons]
    | false => rw [List.filter_cons_of_neg (by simp [hkept]), hturn hkept, List.nil_append]

/-- The message of some protocol that asks for the second tab of the loans. -/
def Json.navigation (source : String) : Json :=
  .object
    [("source", .string source), ("type", .string "navigate"),
      ("payload", .object [("to", .string "List")])]

namespace Preview

/-- A run without the messages that do not count, for their origin or for their form, comes to the
same preview as the run with them. It has the same turns but for those messages, and the same events
and calls of handlers in all. After any run, a message from an origin that is not trusted
changes nothing, whatever its data. -/
theorem run_heard {canvas : Canvas} {stage : Stage} {first : Preview}
    (h : mount (some canvas) stage = .ok first) (operations : List Operation) :
    (first.run (operations.filter (Operation.Heard stage.options.trustedOrigin))).1
        = (first.run operations).1
      ∧ first.turns (operations.filter (Operation.Heard stage.options.trustedOrigin))
        = (first.turns operations).filter (·.operation.Heard stage.options.trustedOrigin)
      ∧ (first.turns (operations.filter (Operation.Heard stage.options.trustedOrigin))).flatMap
          Turn.calls
        = (first.turns operations).flatMap Turn.calls
      ∧ (first.run (operations.filter (Operation.Heard stage.options.trustedOrigin))).2
        = (first.run operations).2
      ∧ ∀ origin data, origin ≠ stage.options.trustedOrigin →
        (first.run operations).1.apply (.receive origin data) = ((first.run operations).1, [])
          ∧ (first.run operations).1.calls (.receive origin data) = [] := by
  have htrusted : first.trustedOrigin = stage.options.trustedOrigin := by
    cases h
    rfl
  obtain ⟨hrun, hturns⟩ := turns_filter htrusted operations
  have hsilent : ∀ turn ∈ first.turns operations,
      decide (turn.operation.Heard stage.options.trustedOrigin) = false →
        turn.events = [] ∧ turn.calls = [] :=
    fun turn hturn hheard => turn_of_not_heard htrusted hturn (of_decide_eq_false hheard)
  refine ⟨hrun, hturns, ?_, ?_, fun origin data horigin => ?_⟩
  · rw [hturns]
    exact Turn.flatMap_filter _ _ fun turn hturn hheard => (hsilent turn hturn hheard).2
  · rw [events_run, events_run, hturns]
    exact Turn.flatMap_filter _ _ fun turn hturn hheard => (hsilent turn hturn hheard).1
  · refine apply_of_not_heard fun hheard => horigin ?_
    rw [hheard.1, trustedOrigin_run, htrusted]

/-- A stranger and a misspelt protocol ask for a tab in vain, before the host gets its way. -/
theorem run_heard_loans :
    ∃ document first operations,
      Document.ofJson? Json.loans = .ok document
        ∧ mount (some {}) { document, options := { now := 0, trustedOrigin := "host" } } = .ok first
        ∧ operations = [.subscribe "navigate", .receive "stranger" (.navigation "wirevana"),
          .receive "host" (.navigation "wirevanna"), .receive "host" (.navigation "wirevana")]
        ∧ operations.filter (Operation.Heard "host")
          = [.subscribe "navigate", .receive "host" (.navigation "wirevana")]
        ∧ (first.run [.subscribe "navigate", .receive "host" (.navigation "wirevana")]).1
          = (first.run operations).1
        ∧ ((first.turns operations).flatMap Turn.calls).map (·.1) = [0]
        ∧ (first.run operations).2 = [.tabSelected "List"]
        ∧ (first.run operations).1.apply (.receive "stranger" (.navigation "wirevana"))
          = ((first.run operations).1, []) := by
  obtain ⟨document, first, hload, hmount⟩ :
      ∃ document first, Document.ofJson? Json.loans = .ok document
        ∧ mount (some {}) { document, options := { now := 0, trustedOrigin := "host" } }
          = .ok first :=
    ⟨_, _, rfl, rfl⟩
  obtain ⟨hrun, -, -, -, hstranger⟩ := run_heard hmount
    [.subscribe "navigate", .receive "stranger" (.navigation "wirevana"),
      .receive "host" (.navigation "wirevanna"), .receive "host" (.navigation "wirevana")]
  have hne : "stranger" ≠ "host" := by decide
  refine ⟨document, first, _, hload, hmount, rfl, rfl, hrun, ?_, ?_,
    (hstranger "stranger" _ hne).1⟩
  · cases hload
    cases hmount
    rfl
  · cases hload
    cases hmount
    rfl

end Preview

end Wireframe
