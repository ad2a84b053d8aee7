import Wireframe.Proofs.Operations

/-!
# What sessions can do

A session moves in steps, and each step is told by one event. `Session.Step` says once what the steps
are and when they are taken; `Session.Log` is a sequence of them. Every change of a preview, and so
every operation and every run, is such a sequence, and its events are the ones that are handed out:
`Stage.Offers.logged`, `Preview.log_apply` and `Preview.log_run`.
-/

namespace Wireframe

/-- One step of a session, with the event that tells of it. -/
inductive Session.Step (document : Document) : Session → Event → Session → Prop where
  | selectTab {session : Session} {tab : String} (inactive : session.activeTab ≠ some tab)
      (declared : (document.tab? tab).isSome) :
      Step document session (.tabSelected tab) { session with activeTab := some tab }
  | openPopup {session : Session} {name popup : String}
      (declared : document.action? name = some (.popup popup)) :
      Step document session (.popupOpened popup) (session.withPopup popup)
  | closePopup {session : Session} (isOpen : session.openPopup.isSome) :
      Step document session .popupClosed { session with openPopup := none }
  | showSnackbar {session : Session} (declared : document.snackbar?.isSome) :
      Step document session .snackbarShown (session.setSnackbar true)
  | hideSnackbar {session : Session} (visible : session.snackbarVisible = true) :
      Step document session .snackbarDismissed (session.setSnackbar false)
  | command {session : Session} {name label : String}
      (declared : document.action? name = some (.command label)) :
      Step document session (.command name label) session
  | write {session : Session} {target : Target} {value : Json}
      (fresh : (session.value? target == some value) = false) :
      Step document session (.valueChanged target value) (session.setValue target value)
  | unknownAction {session : Session} {name : String}
      (undeclared : document.action? name = none) (notBuiltin : BuiltinAction.ofName? name = none) :
      Step document session (.unknownAction name) session

/-- A sequence of steps with their events. -/
inductive Session.Log (document : Document) : Session → List Event → Session → Prop where
  | nil (session : Session) : Log document session [] session
  | cons {first next last : Session} {event : Event} {events : List Event}
      (step : Step document first event next) (rest : Log document next events last) :
      Log document first (event :: events) last

namespace Session.Log

variable {document : Document} {first middle last : Session} {event : Event}
  {events more : List Event}

lemma single (h : Step document first event last) : Log document first [event] last :=
  .cons h (.nil last)

lemma append (h : Log document first events middle) (h' : Log document middle more last) :
    Log document first (events ++ more) last := by
  induction h with
  | nil => exact h'
  | cons step _ ih => exact .cons step (ih h')

/-- Without an event, nothing happens to the session. -/
lemma eq_of_nil (h : Log document first [] last) : last = first := by
  cases h; rfl

/-- A log can be cut anywhere. -/
lemma cut {before after : List Event} (h : Log document first (before ++ after) last) :
    ∃ middle, Log document first before middle ∧ Log document middle after last := by
  induction before generalizing first with
  | nil => exact ⟨first, .nil first, h⟩
  | cons _ _ ih =>
    cases h with
    | cons step rest =>
      obtain ⟨middle, hbefore, hafter⟩ := ih rest
      exact ⟨middle, .cons step hbefore, hafter⟩

/-- A log can be cut around an event. -/
lemma split {before after : List Event} (h : Log document first (before ++ event :: after) last) :
    ∃ here next, Log document first before here ∧ Step document here event next ∧
      Log document next after last := by
  obtain ⟨here, hbefore, hrest⟩ := h.cut
  cases hrest with
  | cons step hafter => exact ⟨here, _, hbefore, step, hafter⟩

end Session.Log

/-! ### Changes -/

/-- Whether a change does to the session what its events tell. -/
def Change.Logged (document : Document) (change : Change) : Prop :=
  ∀ activity, Session.Log document activity.session (change activity).2 (change activity).1.session

namespace Change

variable {document : Document}

lemma logged_nothing : Logged document nothing := fun _ => .nil _

lemma Logged.andThen {first second : Change} (h : Logged document first)
    (h' : Logged document second) : Logged document (first.andThen second) := fun activity =>
  (h activity).append (h' (first activity).1)

lemma logged_ofSession? {next : Session → Option Session} {event : Event}
    (h : ∀ session session', next session = some session' →
      Session.Step document session event session') :
    Logged document (ofSession? next event) := by
  intro activity
  simp only [ofSession?]
  cases hnext : next activity.session with
  | none => exact .nil _
  | some session => exact .single (h _ _ hnext)

lemma logged_closePopup : Logged document closePopup := by
  refine logged_ofSession? fun session session' h => ?_
  simp only [Session.closePopup?] at h
  split at h
  · next isOpen => cases h; exact .closePopup isOpen
  · cases h

lemma logged_openPopup {name popup : String} (h : document.action? name = some (.popup popup)) :
    Logged document (openPopup popup) := by
  refine logged_ofSession? fun session session' heq => ?_
  cases heq
  exact .openPopup h

lemma logged_write (target : Target) (value : Json) : Logged document (write target value) := by
  refine logged_ofSession? fun session session' h => ?_
  split at h
  · cases h
  · next fresh => cases h; exact .write (Bool.eq_false_iff.mpr fresh)

lemma logged_hideSnackbar : Logged document hideSnackbar := by
  refine logged_ofSession? fun session session' h => ?_
  split at h
  · next visible => cases h; exact .hideSnackbar visible
  · cases h

@[simp] lemma session_cancelTimer (activity : Activity) :
    (cancelTimer activity).session = activity.session := by
  simp only [cancelTimer]
  split <;> rfl

lemma logged_dismissSnackbar : Logged document dismissSnackbar := by
  intro activity
  simpa [dismissSnackbar] using logged_hideSnackbar (cancelTimer activity)

lemma logged_timeOut (timer : Timer Unit) : Logged document (timeOut timer) := by
  intro activity
  simp only [timeOut]
  split
  · exact logged_hideSnackbar { activity with snackbarTimer := none }
  · exact .nil _

lemma logged_foldr_andThen {changes : List Change}
    (h : ∀ change ∈ changes, Logged document change) :
    Logged document (changes.foldr andThen nothing) := by
  induction changes with
  | nil => exact logged_nothing
  | cons change changes ih =>
    exact (h change List.mem_cons_self).andThen
      (ih fun other hother => h other (List.mem_cons_of_mem _ hother))

lemma logged_advance (now : Nat) : Logged document (advance now) := by
  intro activity
  refine logged_foldr_andThen (fun change hchange => ?_)
    { activity with timers := (activity.timers.advance now).2 }
  obtain ⟨timer, -, rfl⟩ := List.mem_map.mp hchange
  exact logged_timeOut timer

end Change

namespace Stage

variable (stage : Stage)

@[simp] lemma session_startTimer (activity : Activity) :
    (stage.startTimer activity).session = activity.session := by
  simp only [startTimer]
  split <;> simp

lemma session_start : stage.start.session = Session.initial stage.document := by
  simp only [start]
  split <;> simp

lemma logged_selectTab (tab : String) : (stage.selectTab tab).Logged stage.document := by
  refine Change.logged_ofSession? fun session session' h => ?_
  simp only [Session.selectTab?] at h
  split at h
  · cases h
  · next hcond =>
    cases h
    obtain ⟨inactive, declared⟩ := not_or.mp hcond
    exact .selectTab inactive (Option.isSome_iff_ne_none.mpr (by simpa using declared))

lemma logged_showSnackbar : stage.showSnackbar.Logged stage.document := by
  intro activity
  simp only [showSnackbar]
  split
  · next declared =>
    rw [session_startTimer]
    exact .single (.showSnackbar declared)
  · exact .nil _

/-- What is made of single steps is told step by step. -/
theorem Composed.logged {stage : Stage} {change : Change} (h : stage.Composed change) :
    change.Logged stage.document := by
  induction h with
  | nothing => exact Change.logged_nothing
  | selectTab tab => exact stage.logged_selectTab tab
  | closePopup => exact Change.logged_closePopup
  | openPopup declared => exact Change.logged_openPopup declared
  | command declared => exact fun activity => .single (.command declared)
  | unknownAction undeclared notBuiltin =>
    exact fun activity => .single (.unknownAction undeclared notBuiltin)
  | showSnackbar => exact stage.logged_showSnackbar
  | dismissSnackbar => exact Change.logged_dismissSnackbar
  | write target value => exact Change.logged_write target value
  | andThen _ _ ih ih' => exact ih.andThen ih'
  | dependent _ ih => exact fun activity => ih activity activity

theorem Offers.logged {stage : Stage} {change : Change} (h : stage.Offers change) :
    change.Logged stage.document := by
  rcases h.cases with ⟨now, rfl⟩ | hcomposed
  · exact Change.logged_advance now
  · exact hcomposed.logged

end Stage

/-! ### Operations and runs -/

namespace Preview

variable {preview : Preview} {change : Change}

lemma log_perform (h : change.Logged preview.stage.document) :
    Session.Log preview.stage.document preview.session (preview.perform change).2
      (preview.perform change).1.session := by
  cases htorn : preview.tornDown with
  | true => simpa [perform_of_tornDown htorn] using .nil _
  | false =>
    rw [perform_of_live htorn]
    exact h preview.activity

lemma log_performQuietly (h : change.Logged preview.stage.document) :
    Session.Log preview.stage.document preview.session (preview.performQuietly change).2
      (preview.performQuietly change).1.session := by
  cases htorn : preview.tornDown with
  | true => simpa [performQuietly_of_tornDown htorn] using .nil _
  | false =>
    rw [performQuietly_of_live htorn]
    dsimp only
    split
    · exact h preview.activity
    · exact h preview.activity

variable (preview)

/-- What an operation does to the session is what its events tell. -/
theorem log_apply (operation : Operation) :
    Session.Log preview.stage.document preview.session (preview.apply operation).2
      (preview.apply operation).1.session := by
  generalize hnext : preview.apply operation = next
  have h := preview.apply_cases operation
  rw [hnext] at h
  cases h with
  | performed offered => exact log_perform offered.logged
  | performedQuietly offered => exact log_performQuietly offered.logged
  | hosted host => exact .nil _
  | tornDown _ => simpa using .nil _

theorem log_run (operations : List Operation) :
    Session.Log preview.stage.document preview.session (preview.run operations).2
      (preview.run operations).1.session := by
  induction operations generalizing preview with
  | nil => exact .nil _
  | cons operation operations ih =>
    have hrest := ih (preview.apply operation).1
    rw [stage_apply] at hrest
    exact (preview.log_apply operation).append hrest

/-- The events of a mounted preview tell how its session came about. -/
lemma log_run_of_mount {canvas : Canvas} {stage : Stage} {first : Preview}
    (h : mount (some canvas) stage = .ok first) (operations : List Operation) :
    Session.Log stage.document (Session.initial stage.document) (first.run operations).2
      (first.run operations).1.session := by
  obtain ⟨hstage, hactivity, -⟩ := eq_of_mount h
  have hinitial : first.session = Session.initial stage.document := by
    rw [session, hactivity, Stage.session_start]
  have hlog := first.log_run operations
  rwa [hstage, hinitial] at hlog

end Preview

end Wireframe
