import Wireframe.Proofs.CurrentScreen
import Wireframe.Proofs.IgnoredMessages

/-!
# After the end of a preview

Once a preview is torn down, no operation has an event, calls a handler or changes anything but the
adapter to the host (`Preview.apply_of_tornDown`). The operations that concern the host do not ask
whether the preview was torn down: a handler can still be registered, and a sink that is connected
then gets messages. Without those two everything stays as it was left (`Preview.teardown_run`).
-/

namespace Wireframe

/-- Whether an operation only concerns the host. -/
def Operation.ConcernsHost : Operation → Prop
  | subscribe _ | unsubscribe _ | connect _ _ | requestNavigation _ => True
  | _ => False

instance : DecidablePred Operation.ConcernsHost
  | .subscribe _ | .unsubscribe _ | .connect _ _ | .requestNavigation _ => .isTrue trivial
  | .selectTab _ | .invoke _ | .closePopup | .showSnackbar | .dismissSnackbar | .activate _
  | .changeText _ _ | .advance _ | .receive _ _ | .teardown => .isFalse id

attribute [ext] Adapter

/-- Without a sink, messages are dropped. -/
lemma Adapter.sendAll_of_sink_eq_none {adapter : Adapter} (h : adapter.sink = none)
    (messages : List Outbound) : (adapter.sendAll messages).2 = adapter := by
  induction messages with
  | nil => rfl
  | cons message messages ih =>
    have hsend : adapter.send message = (.ok (), adapter) := by
      unfold send
      rw [h]
    rw [sendAll, hsend]
    exact ih

/-- Without handlers, there is none to remove. -/
lemma Channel.unsubscribe_of_handlers_eq_nil {channel : Channel} (h : channel.handlers = [])
    (subscription : Subscription) : channel.unsubscribe subscription = (false, channel) := by
  rw [unsubscribe, h]
  rfl

namespace Preview

variable {preview : Preview}

/-! ### One operation -/

lemma calls_of_tornDown (h : preview.tornDown = true) (operation : Operation) :
    preview.calls operation = [] := by
  cases operation with
  | receive origin data => rw [calls, delivery?, if_pos h]
  | _ => rfl

/-- Nothing but the adapter to the host is changed after the end, and nothing has an event. -/
lemma apply_of_tornDown (h : preview.tornDown = true) (operation : Operation) :
    preview.apply operation
      = ({ preview with host := (preview.apply operation).1.host }, []) := by
  generalize hnext : preview.apply operation = next
  have houtcome := preview.apply_cases operation
  rw [hnext] at houtcome
  cases houtcome with
  | performed _ => rw [perform_of_tornDown h]
  | performedQuietly _ => rw [performQuietly_of_tornDown h]
  | hosted host => rfl
  | tornDown _ => rw [teardown, if_pos h]

/-- Only the end and what concerns the host change the adapter to it. -/
lemma host_apply {operation : Operation} (hteardown : operation ≠ .teardown)
    (hhost : ¬operation.ConcernsHost) : (preview.apply operation).1.host = preview.host := by
  cases operation with
  | selectTab tab => exact preview.host_performQuietly _
  | invoke action => exact preview.host_perform _
  | closePopup => exact preview.host_performQuietly _
  | showSnackbar => exact preview.host_perform _
  | dismissSnackbar => exact preview.host_perform _
  | activate nodeId => exact preview.host_activate nodeId
  | changeText nodeId text => exact preview.host_changeText nodeId text
  | advance now => exact preview.host_performQuietly _
  | receive origin data => exact preview.host_receive origin data
  | teardown => exact absurd rfl hteardown
  | _ => exact absurd trivial hhost

lemma host_apply_of_not_concernsHost (h : preview.tornDown = true) {operation : Operation}
    (hhost : ¬operation.ConcernsHost) : (preview.apply operation).1.host = preview.host := by
  by_cases hteardown : operation = .teardown
  · rw [hteardown, apply, teardown, if_pos h]
  · exact host_apply hteardown hhost

/-- What does not concern the host does nothing at all after the end. -/
lemma apply_of_not_concernsHost (h : preview.tornDown = true) {operation : Operation}
    (hhost : ¬operation.ConcernsHost) : preview.apply operation = (preview, []) := by
  rw [apply_of_tornDown h, host_apply_of_not_concernsHost h hhost]

/-- Until a sink is connected, nothing is posted. -/
lemma sink_apply (h : preview.tornDown = true) (hsink : preview.host.sink = none)
    {operation : Operation} (hconnect : ∀ sink now, operation ≠ .connect sink now) :
    (preview.apply operation).1.host.sink = none
      ∧ (preview.apply operation).1.host.posted = preview.host.posted := by
  by_cases hhost : operation.ConcernsHost
  · cases operation with
    | subscribe kind => exact ⟨hsink, rfl⟩
    | unsubscribe subscription => exact ⟨hsink, rfl⟩
    | connect sink now => exact absurd rfl (hconnect sink now)
    | requestNavigation destination =>
      have hsame : (preview.apply (.requestNavigation destination)).1.host = preview.host :=
        Adapter.sendAll_of_sink_eq_none hsink [.navigate destination]
      rw [hsame]
      exact ⟨hsink, rfl⟩
    | _ => exact hhost.elim
  · rw [apply_of_not_concernsHost h hhost]
    exact ⟨hsink, rfl⟩

/-- Until a handler is registered, there is none. -/
lemma channel_apply (h : preview.tornDown = true) (hhandlers : preview.host.channel.handlers = [])
    {operation : Operation} (hsubscribe : ∀ kind, operation ≠ .subscribe kind) :
    (preview.apply operation).1.host.channel = preview.host.channel := by
  by_cases hhost : operation.ConcernsHost
  · cases operation with
    | subscribe kind => exact absurd rfl (hsubscribe kind)
    | unsubscribe subscription =>
      exact congrArg Prod.snd (Channel.unsubscribe_of_handlers_eq_nil hhandlers subscription)
    | connect sink now => exact preview.channel_connect sink now
    | requestNavigation destination => exact preview.channel_send [.navigate destination]
    | _ => exact hhost.elim
  · rw [apply_of_not_concernsHost h hhost]

/-! ### Runs -/

lemma tornDown_run_of_tornDown (h : preview.tornDown = true) (operations : List Operation) :
    (preview.run operations).1.tornDown = true :=
  run_induction (p := fun last => last.tornDown = true)
    (fun _ operation hlast => tornDown_apply_of_tornDown hlast operation) h operations

/-- A run after the end changes nothing but the adapter to the host. -/
lemma run_of_tornDown (h : preview.tornDown = true) (operations : List Operation) :
    (preview.run operations).1 = { preview with host := (preview.run operations).1.host } := by
  refine run_induction (p := fun last => last = { preview with host := last.host }) ?_ rfl operations
  intro last operation hlast
  have hend : last.tornDown = true := by
    rw [hlast]
    exact h
  calc (last.apply operation).1
      = { last with host := (last.apply operation).1.host } :=
        congrArg Prod.fst (apply_of_tornDown hend operation)
    _ = { preview with host := (last.apply operation).1.host } :=
        congrArg (fun base : Preview => { base with host := (last.apply operation).1.host }) hlast

/-- Of the operations of a run after the end, only those count that concern the host. -/
lemma run_filter_of_tornDown (h : preview.tornDown = true) (operations : List Operation) :
    (preview.run (operations.filter Operation.ConcernsHost)).1 = (preview.run operations).1 := by
  refine (turns_filter_of_idle (p := fun last => last.tornDown = true) ?_ ?_ h operations).1
  · exact fun last operation hend => tornDown_apply_of_tornDown hend operation
  · intro last operation hend hhost
    rw [apply_of_not_concernsHost hend hhost]

lemma sink_run (h : preview.tornDown = true) (hsink : preview.host.sink = none)
    {operations : List Operation} (hconnect : ∀ sink now, .connect sink now ∉ operations) :
    (preview.run operations).1.host.sink = none
      ∧ (preview.run operations).1.host.posted = preview.host.posted := by
  refine (run_induction_of_mem
    (p := fun last => last.tornDown = true ∧ last.host.sink = none
      ∧ last.host.posted = preview.host.posted) ?_ ⟨h, hsink, rfl⟩).2
  rintro last operation hmem ⟨hend, hnone, hposted⟩
  obtain ⟨hnext, hsame⟩ := sink_apply hend hnone
    fun sink now => ne_of_mem_of_not_mem hmem (hconnect sink now)
  exact ⟨tornDown_apply_of_tornDown hend operation, hnext, hsame.trans hposted⟩

lemma channel_run (h : preview.tornDown = true) (hhandlers : preview.host.channel.handlers = [])
    {operations : List Operation} (hsubscribe : ∀ kind, .subscribe kind ∉ operations) :
    (preview.run operations).1.host.channel = preview.host.channel := by
  refine (run_induction_of_mem
    (p := fun last => last.tornDown = true ∧ last.host.channel = preview.host.channel) ?_
    ⟨h, rfl⟩).2
  rintro last operation hmem ⟨hend, hchannel⟩
  have hnext := channel_apply hend (hchannel ▸ hhandlers)
    fun kind => ne_of_mem_of_not_mem hmem (hsubscribe kind)
  exact ⟨tornDown_apply_of_tornDown hend operation, hnext.trans hchannel⟩

lemma turns_of_tornDown (h : preview.tornDown = true) {operations : List Operation} {turn : Turn}
    (hturn : turn ∈ preview.turns operations) : turn.events = [] ∧ turn.calls = [] := by
  obtain ⟨before, after, -, hevents, hcalls⟩ := exists_of_mem_turns hturn
  have hend := tornDown_run_of_tornDown h before
  rw [apply_of_tornDown hend] at hevents
  rw [calls_of_tornDown hend] at hcalls
  exact ⟨hevents, hcalls⟩

lemma events_of_tornDown (h : preview.tornDown = true) (operations : List Operation) :
    (preview.run operations).2 = [] := by
  rw [events_run, List.flatMap_eq_nil_iff]
  exact fun turn hturn => (turns_of_tornDown h hturn).1

/-- The end leaves no timer, no handler and no sink, and an empty canvas. -/
lemma cleared_teardown (h : preview.tornDown = false) :
    preview.teardown.activity.timers.pending = []
      ∧ preview.teardown.host.channel.handlers = []
      ∧ preview.teardown.host.sink = none
      ∧ preview.teardown.canvas.html = "" := by
  unfold teardown
  rw [h]
  exact ⟨rfl, rfl, rfl, rfl⟩

/-- From when a preview is torn down, no operation has an event or calls a handler, and the document,
session, screen, timers and canvas stay as they are then: only the adapter to the host can change, in
the way in which the operations that concern the host change it. Nothing is posted unless a sink is
connected, and no handler is registered but by registering one; without these two operations, all of
the preview stays as it is. -/
theorem teardown_run {canvas : Canvas} {stage : Stage} {first torn last : Preview}
    {before later : List Operation} {events : List Event}
    (h : mount (some canvas) stage = .ok first) (hnotin : .teardown ∉ before)
    (htorn : (first.run (before ++ [.teardown])).1 = torn)
    (hlast : torn.run later = (last, events)) :
    (torn.activity.timers.pending = [] ∧ torn.host.channel.handlers = []
        ∧ torn.host.sink = none ∧ torn.canvas.html = "")
      ∧ events = []
      ∧ (∀ turn ∈ torn.turns later, turn.events = [] ∧ turn.calls = [])
      ∧ last = { torn with host := last.host }
      ∧ last = (torn.run (later.filter Operation.ConcernsHost)).1
      ∧ ((∀ sink now, .connect sink now ∉ later) →
        last.host.sink = none ∧ last.host.posted = torn.host.posted)
      ∧ ((∀ kind, .subscribe kind ∉ later) → last.host.channel = torn.host.channel)
      ∧ ((∀ sink now, .connect sink now ∉ later) → (∀ kind, .subscribe kind ∉ later) →
        last = torn) := by
  rw [run_append] at htorn
  have htorn : (first.run before).1.teardown = torn := htorn
  have hend : torn.tornDown = true := htorn ▸ tornDown_teardown _
  have hcleared := cleared_teardown (live_run_of_mount h hnotin)
  rw [htorn] at hcleared
  have ⟨_, hhandlers, hsink, _⟩ := hcleared
  have hkept : last = { torn with host := last.host } := by
    have hrun := run_of_tornDown hend later
    rwa [hlast] at hrun
  have hevents := events_of_tornDown hend later
  have hfilter := run_filter_of_tornDown hend later
  rw [hlast] at hevents hfilter
  have hposted (hconnect : ∀ sink now, .connect sink now ∉ later) :
      last.host.sink = none ∧ last.host.posted = torn.host.posted := by
    have hsame := sink_run hend hsink hconnect
    rwa [hlast] at hsame
  have hchannel (hsubscribe : ∀ kind, .subscribe kind ∉ later) :
      last.host.channel = torn.host.channel := by
    have hsame := channel_run hend hhandlers hsubscribe
    rwa [hlast] at hsame
  refine ⟨hcleared, hevents, fun turn hturn => turns_of_tornDown hend hturn, hkept, hfilter.symm,
    hposted, hchannel, fun hconnect hsubscribe => ?_⟩
  obtain ⟨hnone, hsame⟩ := hposted hconnect
  rw [hkept, Adapter.ext (hnone.trans hsink.symm) (hchannel hsubscribe) hsame]

/-- A snackbar is up and a sink is connected when the preview is torn down; then a tab is asked for, and
the clock runs on. -/
theorem teardown_run_loans :
    ∃ (document : Document) (first torn last : Preview) (before later : List Operation)
      (events : List Event),
      Document.ofJson? Json.loans = .ok document
        ∧ mount (some {}) { document, options := { now := 0, trustedOrigin := "host" } } = .ok first
        ∧ before = [.connect .accepting 0, .subscribe "navigate", .showSnackbar]
        ∧ later = [.advance 60000, .receive "host" (.navigation "wirevana"), .selectTab "List",
          .requestNavigation "docs", .teardown]
        ∧ .teardown ∉ before
        ∧ (first.run (before ++ [.teardown])).1 = torn
        ∧ torn.run later = (last, events)
        ∧ torn.session.snackbarVisible = true
        ∧ torn.host.posted.length = 3
        ∧ events = []
        ∧ last = torn := by
  obtain ⟨document, first, before, later, hload, hmount, hbefore, hlater, hvisible, hposted⟩ :
      ∃ (document : Document) (first : Preview) (before later : List Operation),
        Document.ofJson? Json.loans = .ok document
        ∧ mount (some {}) { document, options := { now := 0, trustedOrigin := "host" } } = .ok first
        ∧ before = [.connect .accepting 0, .subscribe "navigate", .showSnackbar]
        ∧ later = [.advance 60000, .receive "host" (.navigation "wirevana"), .selectTab "List",
          .requestNavigation "docs", .teardown]
        ∧ (first.run (before ++ [.teardown])).1.session.snackbarVisible = true
        ∧ (first.run (before ++ [.teardown])).1.host.posted.length = 3 :=
    ⟨_, _, _, _, rfl, rfl, rfl, rfl, by decide +kernel, by decide +kernel⟩
  have hnotin : .teardown ∉ before := by simp [hbefore]
  have hrun : (first.run (before ++ [.teardown])).1.run later = _ := rfl
  obtain ⟨-, hevents, -, -, -, -, -, hsame⟩ := teardown_run hmount hnotin rfl hrun
  exact ⟨document, first, _, _, before, later, _, hload, hmount, hbefore, hlater, hnotin, rfl, rfl,
    hvisible, hposted, hevents, hsame (by simp [hlater]) (by simp [hlater])⟩

/-- A sink that is connected after the end gets three messages, and a handler can be registered. -/
theorem teardown_run_loans_ne :
    ∃ document first torn,
      Document.ofJson? Json.loans = .ok document
        ∧ mount (some {}) { document, options := { now := 0 } } = .ok first
        ∧ (first.run [.teardown]).1 = torn
        ∧ torn.host.posted = []
        ∧ (torn.run [.connect .accepting 0]).1.host.posted.map Envelope.kind
          = ["ready", "wireframe-rendered", "resize"]
        ∧ torn.host.channel.handlers = []
        ∧ (torn.run [.subscribe "navigate"]).1.host.channel.handlers = [("navigate", [0])] :=
  ⟨_, _, _, rfl, rfl, rfl, rfl, rfl, rfl, rfl⟩

end Preview

end Wireframe
