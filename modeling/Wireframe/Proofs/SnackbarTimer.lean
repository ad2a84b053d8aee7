import Wireframe.Proofs.SessionLog

/-!
# The timer of the snackbar

A snackbar that is shown for a time has exactly one timer, which counts from when it was shown last;
where none is shown, or it stays for ever, there is none (`Activity.Timed`). Every change keeps this, so
that moving the clock hides the snackbar just when its time is over, and never twice without showing
it in between (`Preview.snackbar_run`).
-/

namespace Wireframe

/-- Whether an event tells that the snackbar is shown, anew or for the first time. -/
def Event.showsSnackbar : Event → Bool
  | snackbarShown => true
  | _ => false

/-- Whether there is a timer exactly while a snackbar is shown for a time: one, that is due so much
later than the clock was when the snackbar was shown last. -/
structure Activity.Timed (duration shown : Nat) (activity : Activity) : Prop where
  idle : ¬ (0 < duration ∧ activity.session.snackbarVisible = true) →
    activity.timers.pending = [] ∧ activity.snackbarTimer = none
  running : 0 < duration → activity.session.snackbarVisible = true →
    ∃ timer, activity.snackbarTimer = some timer
      ∧ activity.timers.pending = [⟨timer, Timers.later shown duration, ()⟩]

/-- When the snackbar counts as shown last, after a change that began at a time with these events. -/
def Event.shownAfter (clock shown : Nat) (events : List Event) : Nat :=
  if events.any showsSnackbar then clock else shown

lemma Event.shownAfter_append (clock shown : Nat) (events more : List Event) :
    shownAfter clock shown (events ++ more)
      = shownAfter clock (shownAfter clock shown events) more := by
  simp only [shownAfter, List.any_append, Bool.or_eq_true]
  by_cases hmore : more.any showsSnackbar = true
  · simp [hmore]
  · simp [hmore]

namespace Activity

variable {duration shown : Nat} {activity : Activity}

/-- Without a snackbar that is shown for a time, it does not matter when it was shown last. -/
lemma timed_of_idle (hidle : ¬ (0 < duration ∧ activity.session.snackbarVisible = true))
    (hpending : activity.timers.pending = []) (htimer : activity.snackbarTimer = none) :
    activity.Timed duration shown :=
  ⟨fun _ => ⟨hpending, htimer⟩, fun hduration hvisible => absurd ⟨hduration, hvisible⟩ hidle⟩

lemma Timed.pending_ne_nil_iff (h : activity.Timed duration shown) :
    activity.timers.pending ≠ [] ↔ 0 < duration ∧ activity.session.snackbarVisible = true := by
  constructor
  · intro hpending
    by_contra hidle
    exact hpending (h.idle hidle).1
  · rintro ⟨hduration, hvisible⟩
    obtain ⟨timer, -, hpending⟩ := h.running hduration hvisible
    simp [hpending]

/-- The timer is not concerned with what else a session does. -/
lemma Timed.withSession (h : activity.Timed duration shown) {session : Session}
    (hvisible : session.snackbarVisible = activity.session.snackbarVisible) :
    { activity with session }.Timed duration shown :=
  ⟨fun hidle => h.idle (by rwa [← hvisible]),
    fun hduration hshown => h.running hduration (by rwa [← hvisible])⟩

/-- Forgetting the timer leaves none. -/
lemma Timed.cancelTimer (h : activity.Timed duration shown) :
    (Change.cancelTimer activity).timers = { activity.timers with pending := [] }
      ∧ (Change.cancelTimer activity).snackbarTimer = none := by
  by_cases hrunning : 0 < duration ∧ activity.session.snackbarVisible = true
  · obtain ⟨timer, htimer, hpending⟩ := h.running hrunning.1 hrunning.2
    simp [Change.cancelTimer, Timers.cancel, htimer, hpending]
  · obtain ⟨hpending, htimer⟩ := h.idle hrunning
    simp [Change.cancelTimer, htimer, ← hpending]

end Activity

/-! ### Changes -/

/-- Whether a change leaves the clock alone and keeps the timer in step with the snackbar. -/
structure Change.Timely (duration : Nat) (change : Change) : Prop where
  clock : ∀ activity, (change activity).1.timers.clock = activity.timers.clock
  timed : ∀ shown activity, activity.Timed duration shown →
    (change activity).1.Timed duration
      (Event.shownAfter activity.timers.clock shown (change activity).2)

namespace Change

variable {duration shown : Nat}

lemma timely_nothing : Timely duration nothing := ⟨fun _ => rfl, fun _ _ h => h⟩

lemma Timely.andThen {first second : Change} (h : Timely duration first)
    (h' : Timely duration second) : Timely duration (first.andThen second) := by
  refine ⟨fun activity => (h'.clock _).trans (h.clock activity), fun shown activity htimed => ?_⟩
  have hsecond := h'.timed _ _ (h.timed shown activity htimed)
  rw [h.clock, ← Event.shownAfter_append] at hsecond
  exact hsecond

/-- An event that leaves the session as it is, if it does not tell of the snackbar. -/
lemma timely_event {event : Event} (h : event.showsSnackbar = false) :
    Timely duration fun activity => (activity, [event]) := by
  refine ⟨fun _ => rfl, fun shown activity htimed => ?_⟩
  simpa [Event.shownAfter, h] using htimed

lemma timely_ofSession? {next : Session → Option Session} {event : Event}
    (hevent : event.showsSnackbar = false)
    (hnext : ∀ session, ∀ session' ∈ next session,
      session'.snackbarVisible = session.snackbarVisible) :
    Timely duration (ofSession? next event) := by
  refine ⟨fun activity => ?_, fun shown activity htimed => ?_⟩
  · simp only [ofSession?]
    split <;> rfl
  · simp only [ofSession?]
    split
    · next session hsession =>
      simpa [Event.shownAfter, hevent] using htimed.withSession (hnext _ _ hsession)
    · exact htimed

lemma timely_closePopup : Timely duration closePopup := by
  refine timely_ofSession? rfl fun session session' h => ?_
  simp only [Session.closePopup?, Option.mem_def, Option.ite_none_right_eq_some] at h
  rw [← Option.some_inj.mp h.2]

lemma timely_openPopup (popup : String) : Timely duration (openPopup popup) := by
  refine timely_ofSession? rfl fun session session' h => ?_
  rw [← Option.some_inj.mp h]
  rfl

lemma timely_write (target : Target) (value : Json) : Timely duration (write target value) := by
  refine timely_ofSession? rfl fun session session' h => ?_
  simp only [Option.mem_def, Option.ite_none_left_eq_some] at h
  rw [← Option.some_inj.mp h.2]
  cases target <;> rfl

/-- Hiding the snackbar when its timer is gone. -/
lemma timed_hideSnackbar {activity : Activity} (hpending : activity.timers.pending = [])
    (htimer : activity.snackbarTimer = none) :
    (hideSnackbar activity).1.Timed duration shown := by
  simp only [hideSnackbar, ofSession?]
  split
  · next session hsession =>
    rw [Option.ite_none_right_eq_some] at hsession
    refine Activity.timed_of_idle ?_ hpending htimer
    rw [← Option.some_inj.mp hsession.2]
    simp [Session.setSnackbar]
  · next hsession =>
    rw [ite_eq_right_iff] at hsession
    refine Activity.timed_of_idle (fun hrunning => ?_) hpending htimer
    exact absurd (hsession hrunning.2) (Option.some_ne_none _)

lemma shownAfter_hideSnackbar (clock : Nat) (activity : Activity) :
    Event.shownAfter clock shown (hideSnackbar activity).2 = shown := by
  simp only [hideSnackbar, ofSession?]
  split <;> rfl

lemma timers_hideSnackbar (activity : Activity) :
    (hideSnackbar activity).1.timers = activity.timers := by
  simp only [hideSnackbar, ofSession?]
  split <;> rfl

lemma clock_cancelTimer (activity : Activity) :
    (cancelTimer activity).timers.clock = activity.timers.clock := by
  simp only [cancelTimer]
  split <;> rfl

lemma timely_dismissSnackbar : Timely duration dismissSnackbar := by
  refine ⟨fun activity => ?_, fun shown activity htimed => ?_⟩
  · rw [dismissSnackbar, timers_hideSnackbar, clock_cancelTimer]
  · obtain ⟨htimers, htimer⟩ := htimed.cancelTimer
    rw [dismissSnackbar, shownAfter_hideSnackbar]
    exact timed_hideSnackbar (by rw [htimers]) htimer

end Change

namespace Stage

variable (stage : Stage) {shown : Nat} {activity : Activity}

/-- A timer that is started anew counts from now on. -/
lemma timed_startTimer (h : activity.Timed stage.snackbarDuration shown) {session : Session}
    (hvisible : session.snackbarVisible = true) :
    (stage.startTimer { activity with session }).Timed stage.snackbarDuration
      activity.timers.clock := by
  have hcancel : Change.cancelTimer { activity with session }
      = { Change.cancelTimer activity with session } := by
    simp only [Change.cancelTimer]
    split <;> rfl
  obtain ⟨htimers, htimer⟩ := h.cancelTimer
  simp only [startTimer, hcancel]
  split
  · next hduration =>
    exact Activity.timed_of_idle (fun hrunning => Nat.ne_of_gt hrunning.1 hduration)
      (by rw [htimers]) htimer
  · next hduration =>
    rw [htimers]
    refine ⟨fun hidle => absurd ⟨Nat.pos_of_ne_zero hduration, hvisible⟩ hidle, fun _ _ => ?_⟩
    exact ⟨_, rfl, rfl⟩

lemma clock_startTimer (activity : Activity) :
    (stage.startTimer activity).timers.clock = activity.timers.clock := by
  simp only [startTimer]
  split
  · exact Change.clock_cancelTimer activity
  · exact Change.clock_cancelTimer activity

lemma timely_selectTab (tab : String) :
    (stage.selectTab tab).Timely stage.snackbarDuration := by
  refine Change.timely_ofSession? rfl fun session session' h => ?_
  simp only [Session.selectTab?, Option.mem_def, Option.ite_none_left_eq_some] at h
  rw [← Option.some_inj.mp h.2]

lemma timely_showSnackbar : stage.showSnackbar.Timely stage.snackbarDuration := by
  refine ⟨fun activity => ?_, fun shown activity htimed => ?_⟩
  · simp only [showSnackbar]
    split
    · exact stage.clock_startTimer _
    · rfl
  · simp only [showSnackbar]
    split
    · exact stage.timed_startTimer htimed rfl
    · exact htimed

/-- What is made of single steps keeps the timer in step with the snackbar. -/
theorem Composed.timely {stage : Stage} {change : Change} (h : stage.Composed change) :
    change.Timely stage.snackbarDuration := by
  induction h with
  | nothing => exact Change.timely_nothing
  | selectTab tab => exact stage.timely_selectTab tab
  | closePopup => exact Change.timely_closePopup
  | openPopup declared => exact Change.timely_openPopup _
  | command declared => exact Change.timely_event rfl
  | unknownAction undeclared notBuiltin => exact Change.timely_event rfl
  | showSnackbar => exact stage.timely_showSnackbar
  | dismissSnackbar => exact Change.timely_dismissSnackbar
  | write target value => exact Change.timely_write target value
  | andThen _ _ ih ih' => exact ih.andThen ih'
  | dependent _ ih =>
    exact ⟨fun activity => (ih activity).clock activity,
      fun shown activity htimed => (ih activity).timed shown activity htimed⟩

end Stage

/-! ### Moving the clock -/

namespace Activity

variable {duration shown : Nat} {activity : Activity}

/-- Whether the time of a snackbar that was shown last at a time is over when the clock is moved. -/
def TimesOut (duration shown now : Nat) (activity : Activity) : Prop :=
  activity.session.snackbarVisible = true ∧ 0 < duration
    ∧ Timers.later shown duration ≤ max activity.timers.clock now

instance (duration shown now : Nat) (activity : Activity) :
    Decidable (activity.TimesOut duration shown now) :=
  inferInstanceAs (Decidable (_ ∧ _ ∧ _))

/-- Moving the clock hides the snackbar if its time is over, and else does nothing. -/
lemma Timed.advance_eq (h : activity.Timed duration shown) (now : Nat) :
    Change.advance now activity
      = if activity.TimesOut duration shown now then
          ({ session := activity.session.setSnackbar false
             timers := { activity.timers with clock := max activity.timers.clock now, pending := [] }
             snackbarTimer := none }, [Event.snackbarDismissed])
        else
          ({ activity with
              timers := { activity.timers with clock := max activity.timers.clock now } }, []) := by
  simp only [Change.advance, Timers.advance]
  by_cases hrunning : 0 < duration ∧ activity.session.snackbarVisible = true
  · obtain ⟨hduration, hvisible⟩ := hrunning
    obtain ⟨timer, htimer, hpending⟩ := h.running hduration hvisible
    simp only [TimesOut, hvisible, hduration, true_and, hpending]
    split
    · next hdue =>
      simp only [List.takeWhile_cons, List.dropWhile_cons, hdue, decide_true, if_true]
      simp [Change.andThen, Change.timeOut, htimer, Change.hideSnackbar, Change.ofSession?,
        hvisible, Change.nothing]
    · next hdue =>
      simp only [List.takeWhile_cons, List.dropWhile_cons, hdue, decide_false]
      simp [Change.nothing]
  · obtain ⟨hpending, htimer⟩ := h.idle hrunning
    have hstays : ¬ activity.TimesOut duration shown now :=
      fun hout => hrunning ⟨hout.2.1, hout.1⟩
    rw [if_neg hstays]
    simp [hpending, Change.nothing]

lemma Timed.advance (h : activity.Timed duration shown) (now : Nat) :
    (Change.advance now activity).1.Timed duration shown := by
  rw [h.advance_eq now]
  split
  · exact timed_of_idle (by simp [Session.setSnackbar]) rfl rfl
  · exact ⟨h.idle, h.running⟩

end Activity

lemma Stage.Offers.timed {stage : Stage} {change : Change} (h : stage.Offers change) {shown : Nat}
    {activity : Activity} (htimed : activity.Timed stage.snackbarDuration shown) :
    (change activity).1.Timed stage.snackbarDuration
      (Event.shownAfter activity.timers.clock shown (change activity).2) := by
  rcases h.cases with ⟨now, rfl⟩ | hcomposed
  · have hshown : Event.shownAfter activity.timers.clock shown (Change.advance now activity).2
        = shown := by
      rw [htimed.advance_eq now]
      split <;> rfl
    rw [hshown]
    exact htimed.advance now
  · exact hcomposed.timely.timed shown activity htimed

/-- The timer of a snackbar that is shown from the beginning counts from there. -/
lemma Stage.timed_start (stage : Stage) :
    stage.start.Timed stage.snackbarDuration stage.start.timers.clock := by
  have hhidden : Activity.Timed stage.snackbarDuration 0
      { session := { Session.initial stage.document with snackbarVisible := false }
        timers := {}, snackbarTimer := none } :=
    Activity.timed_of_idle (by simp) rfl rfl
  simp only [start]
  split
  · next hvisible =>
    rw [clock_startTimer]
    exact stage.timed_startTimer hhidden hvisible
  · next hvisible =>
    exact Activity.timed_of_idle (fun hrunning => hvisible hrunning.2) rfl rfl

/-! ### Hidden snackbars -/

namespace Session

variable {document : Document} {first last : Session} {event : Event} {events : List Event}

lemma Step.hidden (h : Step document first event last) (hhidden : first.snackbarVisible = false)
    (hevent : event ≠ .snackbarShown) :
    event ≠ .snackbarDismissed ∧ last.snackbarVisible = false := by
  cases h with
  | showSnackbar declared => exact absurd rfl hevent
  | hideSnackbar visible =>
    rw [hhidden] at visible
    cases visible
  | @write target value fresh =>
    refine ⟨by simp, ?_⟩
    cases target with
    | state path => exact hhidden
    | «local» id => exact hhidden
  | _ => exact ⟨by simp, hhidden⟩

/-- A hidden snackbar is not dismissed before it is shown. -/
lemma Log.hidden (h : Log document first events last) (hhidden : first.snackbarVisible = false)
    (hevents : .snackbarShown ∉ events) : .snackbarDismissed ∉ events := by
  induction h with
  | nil => simp
  | cons step _ ih =>
    obtain ⟨hne, hnotin⟩ := List.ne_and_not_mem_of_not_mem_cons hevents
    obtain ⟨hevent, hnext⟩ := step.hidden hhidden hne.symm
    exact List.not_mem_cons_of_ne_of_not_mem hevent.symm (ih hnext hnotin)

/-- Between two dismissals the snackbar is shown. -/
lemma Log.shown_between {before between after : List Event}
    (h : Log document first
      (before ++ .snackbarDismissed :: (between ++ .snackbarDismissed :: after)) last) :
    .snackbarShown ∈ between := by
  obtain ⟨here, next, -, hstep, hrest⟩ := h.split
  obtain ⟨there, _, hbetween, hagain, -⟩ := hrest.split
  have hhidden : next.snackbarVisible = false := by
    cases hstep
    rfl
  by_contra hnotin
  exact (hbetween.append (.single hagain)).hidden hhidden (by simpa using hnotin) (by simp)

end Session

/-! ### Operations and runs -/

namespace Preview

/-- The reading of the clock. -/
def clock (preview : Preview) : Nat := preview.activity.timers.clock

/-- When the snackbar was shown last in a use of a preview; `shown` is when it was shown before. -/
def shownAt (shown : Nat) (preview : Preview) : List Operation → Nat
  | [] => shown
  | operation :: operations =>
    let (next, events) := preview.apply operation
    shownAt (Event.shownAfter preview.clock shown events) next operations

variable {preview : Preview} {shown : Nat}

lemma shownAt_append (operations more : List Operation) :
    preview.shownAt shown (operations ++ more)
      = (preview.run operations).1.shownAt (preview.shownAt shown operations) more := by
  induction operations generalizing preview shown with
  | nil => rfl
  | cons operation operations ih => exact ih

lemma timed_apply (h : preview.activity.Timed preview.stage.snackbarDuration shown)
    (hlive : preview.tornDown = false) {operation : Operation} (hne : operation ≠ .teardown) :
    (preview.apply operation).1.activity.Timed preview.stage.snackbarDuration
      (Event.shownAfter preview.clock shown (preview.apply operation).2) := by
  generalize hnext : preview.apply operation = next
  have houtcome := preview.apply_cases operation
  rw [hnext] at houtcome
  cases houtcome with
  | performed offered =>
    rw [perform_of_live hlive]
    exact offered.timed h
  | performedQuietly offered =>
    rw [performQuietly_of_live hlive]
    dsimp only
    split
    · exact offered.timed h
    · exact offered.timed h
  | hosted host => exact h
  | tornDown heq => exact absurd heq hne

lemma timed_run (h : preview.activity.Timed preview.stage.snackbarDuration shown)
    (hlive : preview.tornDown = false) {operations : List Operation}
    (hnotin : .teardown ∉ operations) :
    (preview.run operations).1.activity.Timed preview.stage.snackbarDuration
      (preview.shownAt shown operations) := by
  induction operations generalizing preview shown with
  | nil => exact h
  | cons operation operations ih =>
    obtain ⟨hne, hnotin⟩ := List.ne_and_not_mem_of_not_mem_cons hnotin
    have hnext := timed_apply h hlive hne.symm
    rw [← stage_apply preview operation] at hnext ⊢
    exact ih hnext ((tornDown_apply hne.symm).trans hlive) hnotin

lemma advance_eq (h : preview.activity.Timed preview.stage.snackbarDuration shown)
    (hlive : preview.tornDown = false) (now : Nat) :
    (preview.apply (.advance now)).2
      = if preview.activity.TimesOut preview.stage.snackbarDuration shown now
        then [.snackbarDismissed] else [] := by
  simp only [apply, advance]
  rw [performQuietly_of_live hlive, h.advance_eq now]
  split <;> rfl

/-- In whatever way a preview was used so far, there is a timer just while a snackbar is shown for a
time: one, that is due this time after the snackbar was shown last. So moving the clock dismisses the
snackbar when that time is over and not before, never twice without showing it in between, and
showing it makes its time begin anew. -/
theorem snackbar_run {canvas : Canvas} {stage : Stage} {first last : Preview} {events : List Event}
    (h : mount (some canvas) stage = .ok first) {operations : List Operation}
    (hnotin : .teardown ∉ operations) (hrun : first.run operations = (last, events)) :
    (last.activity.timers.pending ≠ []
        ↔ 0 < stage.snackbarDuration ∧ last.session.snackbarVisible = true)
      ∧ (last.activity.timers.pending ≠ [] → ∃ timer, last.activity.snackbarTimer = some timer
        ∧ last.activity.timers.pending
          = [⟨timer, Timers.later (first.shownAt first.clock operations) stage.snackbarDuration, ()⟩])
      ∧ (last.activity.timers.pending = [] → last.activity.snackbarTimer = none)
      ∧ (∀ now, (last.apply (.advance now)).2
        = if last.session.snackbarVisible = true ∧ 0 < stage.snackbarDuration
            ∧ Timers.later (first.shownAt first.clock operations) stage.snackbarDuration
              ≤ max last.clock now
          then [.snackbarDismissed] else [])
      ∧ (∀ before between after,
        events = before ++ .snackbarDismissed :: (between ++ .snackbarDismissed :: after) →
          .snackbarShown ∈ between)
      ∧ ∀ operation, .snackbarShown ∈ (last.apply operation).2 →
        first.shownAt first.clock (operations ++ [operation]) = last.clock := by
  obtain ⟨hstage, hactivity, hlive⟩ := eq_of_mount h
  have hstart : first.activity.Timed first.stage.snackbarDuration first.clock := by
    rw [clock, hstage, hactivity]
    exact stage.timed_start
  have htimed := timed_run hstart hlive hnotin
  have hlastLive := (tornDown_run hnotin).trans hlive
  have hlastStage := (stage_run first operations).trans hstage
  have hlog := first.log_run operations
  rw [hrun] at htimed hlastLive hlastStage hlog
  rw [hstage] at htimed
  refine ⟨htimed.pending_ne_nil_iff, fun hpending => ?_, fun hpending => ?_, fun now => ?_, ?_, ?_⟩
  · obtain ⟨hduration, hvisible⟩ := htimed.pending_ne_nil_iff.mp hpending
    exact htimed.running hduration hvisible
  · exact (htimed.idle fun hrunning => htimed.pending_ne_nil_iff.mpr hrunning hpending).2
  · rw [← hlastStage] at htimed ⊢
    exact advance_eq htimed hlastLive now
  · rintro before between after rfl
    exact hlog.shown_between
  · intro operation hshown
    have hany : (last.apply operation).2.any Event.showsSnackbar = true :=
      List.any_eq_true.mpr ⟨_, hshown, rfl⟩
    rw [shownAt_append, hrun]
    exact if_pos hany

/-- Shown again after a second, the snackbar is dismissed three seconds after that. -/
theorem snackbar_run_loans :
    ∃ document first operations last events,
      Document.ofJson? Json.loans = .ok document
        ∧ mount (some {}) { document, options := { now := 0 } } = .ok first
        ∧ operations = [.showSnackbar, .advance 1000, .invoke "showSnackbar", .advance 3500]
        ∧ .teardown ∉ operations
        ∧ first.run operations = (last, events)
        ∧ first.shownAt first.clock operations = 1000
        ∧ last.activity.timers.pending ≠ []
        ∧ ∀ now, (last.apply (.advance now)).2
          = if 4000 ≤ max 3500 now then [.snackbarDismissed] else [] := by
  obtain ⟨document, first, operations, hload, hmount, hoperations, hshown, hclock, hvisible,
      hduration⟩ :
      ∃ document first operations, Document.ofJson? Json.loans = .ok document
        ∧ mount (some {}) { document, options := { now := 0 } } = .ok first
        ∧ operations = [.showSnackbar, .advance 1000, .invoke "showSnackbar", .advance 3500]
        ∧ first.shownAt first.clock operations = 1000
        ∧ (first.run operations).1.clock = 3500
        ∧ (first.run operations).1.session.snackbarVisible = true
        ∧ Stage.snackbarDuration { document, options := { now := 0 } } = 3000 :=
    ⟨_, _, _, rfl, rfl, rfl, by decide +kernel, by decide +kernel, by decide +kernel,
      by decide +kernel⟩
  have hnotin : .teardown ∉ operations := by simp [hoperations]
  obtain ⟨hpending, -, -, hadvance, -⟩ := snackbar_run hmount hnotin rfl
  refine ⟨document, first, operations, _, _, hload, hmount, hoperations, hnotin, rfl, hshown,
    hpending.mpr ⟨by simp [hduration], hvisible⟩, fun now => ?_⟩
  rw [hadvance now, hshown, hclock, hvisible, hduration]
  simp [Timers.later, Text.maxWord]

end Preview

end Wireframe
