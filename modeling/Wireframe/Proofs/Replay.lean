import Wireframe.Proofs.Paths
import Wireframe.Proofs.SessionLog

/-!
# The events tell everything

An embedder that follows the events knows the session: replayed in order over the session a document
starts in, they give the session of the preview, after any run. And an event that reports a changed
field reports a change that took place (`Preview.replay_run`).
-/

namespace Wireframe

/-- What events say about a session, one after the other. -/
def Event.replayAll (events : List Event) (session : Session) : Session :=
  events.foldl (fun session event => event.replay session) session

/-- Where the value was written that an event tells of. -/
def Event.target? : Event → Option Target
  | valueChanged target _ => some target
  | _ => none

lemma Event.exists_of_map_target? {events : List Event} {target : Target}
    (h : events.map Event.target? = [some target]) : ∃ value, events = [.valueChanged target value] := by
  obtain ⟨event, rfl, hevent⟩ := List.map_eq_singleton_iff.mp h
  unfold target? at hevent
  split at hevent
  · cases hevent
    exact ⟨_, rfl⟩
  · cases hevent

/-- Whether an event changes the field it reports. Values are compared as values, so that the order of
keys makes no difference. -/
def Event.Effective (session : Session) (event : Event) : Prop :=
  match event with
  | tabSelected _ => session.activeTab ≠ (event.replay session).activeTab
  | popupClosed => session.openPopup ≠ (event.replay session).openPopup
  | snackbarDismissed => session.snackbarVisible ≠ (event.replay session).snackbarVisible
  | valueChanged target _ =>
    (session.value? target == (event.replay session).value? target) = false
  | _ => True

namespace Session

/-- A value that was written is the value of its control. -/
theorem value?_setValue (session : Session) (target : Target) (value : Json) :
    (session.setValue target value).value? target = some value := by
  cases target with
  | state path => exact Json.lookup_assign _ _ _
  | «local» id => exact Entries.get?_insert_self _ _ _

/-! ### Steps and logs -/

variable {document : Document} {first last : Session} {event : Event} {events : List Event}

lemma Step.replay (h : Step document first event last) : event.replay first = last := by
  cases h <;> rfl

lemma Step.effective (h : Step document first event last) : event.Effective first := by
  cases h with
  | selectTab inactive declared => exact inactive
  | closePopup isOpen => exact Option.isSome_iff_ne_none.mp isOpen
  | hideSnackbar visible => simp [Event.Effective, Event.replay, setSnackbar, visible]
  | write fresh =>
    simp only [Event.Effective, Event.replay, value?_setValue]
    exact fresh
  | openPopup declared => trivial
  | showSnackbar declared => trivial
  | command declared => trivial
  | unknownAction undeclared notBuiltin => trivial

lemma Log.replayAll (h : Log document first events last) :
    Event.replayAll events first = last := by
  induction h with
  | nil => rfl
  | cons step _ ih =>
    rw [Event.replayAll, List.foldl_cons, step.replay]
    exact ih

/-- Every event of a log is effective where the events before it lead. -/
lemma Log.effective {before after : List Event}
    (h : Log document first (before ++ event :: after) last) :
    event.Effective (Event.replayAll before first) := by
  obtain ⟨here, next, hbefore, hstep, -⟩ := h.split
  rw [hbefore.replayAll]
  exact hstep.effective

end Session

namespace Preview

/-- An operation that only tells of a value that was written only writes this value. -/
lemma session_apply_of_valueChanged {preview : Preview} {operation : Operation} {target : Target}
    {value : Json} (h : (preview.apply operation).2 = [.valueChanged target value]) :
    (preview.apply operation).1.session = preview.session.setValue target value := by
  have hlog := (preview.log_apply operation).replayAll
  rw [h] at hlog
  exact hlog.symm

variable {canvas : Canvas} {stage : Stage} {first : Preview}

/-- Whatever is done to a mounted preview, its events replayed over the session the document starts
in give its session; and every event that reports a changed field was effective where it was
emitted, after the events before it. -/
theorem replay_run (h : mount (some canvas) stage = .ok first) (operations : List Operation) :
    Event.replayAll (first.run operations).2 (Session.initial stage.document)
        = (first.run operations).1.session
      ∧ ∀ before event after, (first.run operations).2 = before ++ event :: after →
        event.Effective (Event.replayAll before (Session.initial stage.document)) := by
  obtain ⟨hstage, hactivity, -⟩ := eq_of_mount h
  have hlog := first.log_run operations
  rw [hstage, session, hactivity, stage.session_start] at hlog
  refine ⟨hlog.replayAll, fun before event after hevents => ?_⟩
  rw [hevents] at hlog
  exact hlog.effective

theorem replay_run_loans :
    ∃ document first operations,
      Document.ofJson? Json.loans = .ok document
        ∧ mount (some {}) { document, options := { now := 0 } } = .ok first
        ∧ (first.run operations).2
          = [.popupOpened "Editor", .command "saveLoan" "loans.save", .popupClosed, .snackbarShown,
              .snackbarDismissed, .tabSelected "List"]
        ∧ Event.replayAll (first.run operations).2 (Session.initial document)
          = (first.run operations).1.session
        ∧ ∀ before event after, (first.run operations).2 = before ++ event :: after →
          event.Effective (Event.replayAll before (Session.initial document)) := by
  refine ⟨_, _,
    [.invoke "openEditor", .invoke "actions.saveLoan", .closePopup, .showSnackbar, .dismissSnackbar,
      .selectTab "List"], rfl, rfl, rfl, ?_⟩
  exact replay_run rfl _

end Preview

end Wireframe
