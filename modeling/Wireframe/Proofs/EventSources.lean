import Wireframe.Proofs.Operations

/-!
# Where events come from

What an event of an operation tells of has a source. An unknown action was asked for, or is that of a
node that was activated; a value that was written is one that such a node writes, or a text that was
typed in. All other events say themselves what has happened (`Preview.source_apply`).
-/

namespace Wireframe

namespace Interaction

/-- The action that an interaction runs, if it runs one. -/
def action? : Interaction → Option String
  | invoke action _ => some action
  | snackbarAction action => action
  | toggle _ _ followUp => followUp
  | _ => none

/-- Whether activating a node with an interaction may write a value to a place. -/
def Writes (target : Target) (value : Json) : Interaction → Prop
  | cyclePicker own options _ => target = own ∧ value ∈ options
  | toggle own current _ => target = own ∧ value = .bool !current
  | selectRadio own option => target = own ∧ value = option
  | _ => False

end Interaction

/-- Whether an event tells neither of a value nor of an unknown action. -/
def Event.isPlain : Event → Bool
  | valueChanged _ _ | unknownAction _ => false
  | _ => true

/-! ### Changes -/

/-- Whether all events that a change tells of are of a kind. -/
def Change.Tells (p : Event → Prop) (change : Change) : Prop :=
  ∀ activity, ∀ event ∈ (change activity).2, p event

namespace Change

variable {p : Event → Prop} {event : Event}

lemma tells_nothing : nothing.Tells p := fun _ _ hevent => nomatch hevent

lemma tells_event (h : p event) : Change.Tells p fun activity => (activity, [event]) :=
  fun _ => List.forall_mem_singleton.mpr h

lemma Tells.andThen {first second : Change} (h : first.Tells p) (h' : second.Tells p) :
    (first.andThen second).Tells p :=
  fun activity => List.forall_mem_append.mpr ⟨h activity, h' (first activity).1⟩

lemma tells_ofSession? {next : Session → Option Session} (h : p event) :
    (ofSession? next event).Tells p := by
  intro activity
  simp only [ofSession?]
  split
  · exact List.forall_mem_singleton.mpr h
  · exact List.forall_mem_nil _

lemma tells_write {target : Target} {value : Json} (h : p (.valueChanged target value)) :
    (write target value).Tells p :=
  tells_ofSession? h

lemma tells_dismissSnackbar (h : p .snackbarDismissed) : dismissSnackbar.Tells p :=
  fun activity => tells_ofSession? h (cancelTimer activity)

lemma tells_timeOut (h : p .snackbarDismissed) (timer : Timer Unit) : (timeOut timer).Tells p := by
  intro activity
  simp only [timeOut]
  split
  · exact tells_ofSession? h _
  · exact List.forall_mem_nil _

lemma tells_advance (h : p .snackbarDismissed) (now : Nat) : (advance now).Tells p := by
  have hfold : ∀ due : List (Timer Unit),
      ((due.map timeOut).foldr Change.andThen nothing).Tells p := by
    intro due
    induction due with
    | nil => exact tells_nothing
    | cons timer due ih => exact (tells_timeOut h timer).andThen ih
  exact fun activity => hfold _ _

end Change

namespace Stage

variable (stage : Stage)

/-- The events that running what an interaction asks for may tell of. -/
inductive Told (interaction : Interaction) : Event → Prop where
  | plain {event : Event} (h : event.isPlain) : Told interaction event
  | unknown {action : String} (h : interaction.action? = some action)
      (undeclared : stage.document.action? (actionName action) = none)
      (notBuiltin : BuiltinAction.ofName? (actionName action) = none) :
      Told interaction (.unknownAction (actionName action))
  | written {target : Target} {value : Json} (h : interaction.Writes target value) :
      Told interaction (.valueChanged target value)

variable {stage} {interaction : Interaction} {action : String}

lemma tells_showSnackbar {p : Event → Prop} (h : p .snackbarShown) : stage.showSnackbar.Tells p := by
  intro activity
  simp only [showSnackbar]
  split
  · exact List.forall_mem_singleton.mpr h
  · exact List.forall_mem_nil _

lemma tells_run (h : interaction.action? = some action) :
    (stage.run action).Tells (stage.Told interaction) := by
  simp only [run]
  split
  · exact Change.tells_ofSession? (.plain rfl)
  · exact Change.tells_event (.plain rfl)
  · exact Change.tells_nothing
  · next undeclared =>
    split
    · next builtin _ =>
      cases builtin with
      | closePopup => exact Change.tells_ofSession? (.plain rfl)
      | dismissSnackbar => exact Change.tells_dismissSnackbar (.plain rfl)
      | showSnackbar => exact tells_showSnackbar (.plain rfl)
    · next notBuiltin => exact Change.tells_event (.unknown h undeclared notBuiltin)

/-- An action that may be missing. -/
lemma tells_getD_run : ((interaction.action?.map stage.run).getD .nothing).Tells
    (stage.Told interaction) := by
  cases h : interaction.action? with
  | none => exact Change.tells_nothing
  | some action => exact tells_run h

lemma tells_runFromFooter (h : interaction.action? = some action) :
    (stage.runFromFooter action).Tells (stage.Told interaction) := by
  intro activity
  simp only [runFromFooter]
  split
  · refine List.forall_mem_append.mpr ⟨tells_run h activity, ?_⟩
    refine Change.Tells.andThen (Change.tells_ofSession? (.plain rfl)) ?_ _
    split
    · exact tells_showSnackbar (.plain rfl)
    · exact Change.tells_nothing
  · exact tells_run h activity

/-- Activating a node tells at most of what its interaction asks for. -/
lemma tells_change? {change : Change} (h : stage.change? interaction = some change) :
    change.Tells (stage.Told interaction) := by
  cases interaction with
  | selectTab tab => cases h; exact Change.tells_ofSession? (.plain rfl)
  | invoke action fromPopupFooter =>
    cases h
    split
    · exact tells_runFromFooter rfl
    · exact tells_run rfl
  | closePopup => cases h; exact Change.tells_ofSession? (.plain rfl)
  | dismissSnackbar => cases h; exact Change.tells_dismissSnackbar (.plain rfl)
  | snackbarAction action =>
    cases h
    exact tells_getD_run.andThen (Change.tells_dismissSnackbar (.plain rfl))
  | cyclePicker target options current =>
    cases h
    cases hnext : options[(current.map fun i => (i + 1) % options.length).getD 0]? with
    | none => exact Change.tells_nothing
    | some value => exact Change.tells_write (.written ⟨rfl, List.mem_of_getElem? hnext⟩)
  | toggle target current followUp =>
    cases h
    exact (Change.tells_write (.written ⟨rfl, rfl⟩)).andThen tells_getD_run
  | selectRadio target value => cases h; exact Change.tells_write (.written ⟨rfl, rfl⟩)
  | editText target => cases h

end Stage

/-! ### Operations -/

namespace Preview

/-- What is behind an event of an operation. -/
inductive Source (preview : Preview) : Operation → Event → Prop where
  | plain {operation : Operation} {event : Event} (h : event.isPlain) : Source preview operation event
  | invoked {action : String} {event : Event} (h : preview.stage.Told (.invoke action false) event) :
      Source preview (.invoke action) event
  | activated {nodeId : String} {interaction : Interaction} {event : Event}
      (hinteraction : preview.interaction? nodeId = some interaction)
      (h : preview.stage.Told interaction event) : Source preview (.activate nodeId) event
  | typed {nodeId text : String} {target : Target}
      (hinteraction : preview.interaction? nodeId = some (.editText target)) :
      Source preview (.changeText nodeId text) (.valueChanged target (.string text))

variable {preview : Preview} {change : Change} {p : Event → Prop} {event : Event}

lemma tells_perform (h : change.Tells p) : ∀ event ∈ (preview.perform change).2, p event := by
  simp only [perform]
  split
  · exact List.forall_mem_nil _
  · exact h preview.activity

lemma tells_performQuietly (h : change.Tells p) :
    ∀ event ∈ (preview.performQuietly change).2, p event := by
  simp only [performQuietly]
  split
  · exact List.forall_mem_nil _
  · exact h preview.activity

/-- Every event of an operation has a source. -/
theorem source_apply {operation : Operation} (h : event ∈ (preview.apply operation).2) :
    preview.Source operation event := by
  cases operation with
  | selectTab tab => exact tells_performQuietly (Change.tells_ofSession? (.plain rfl)) _ h
  | invoke action => exact .invoked (tells_perform (Stage.tells_run rfl) _ h)
  | closePopup => exact tells_performQuietly (Change.tells_ofSession? (.plain rfl)) _ h
  | showSnackbar => exact tells_perform (Stage.tells_showSnackbar (.plain rfl)) _ h
  | dismissSnackbar => exact tells_perform (Change.tells_dismissSnackbar (.plain rfl)) _ h
  | activate nodeId =>
    simp only [apply, activate] at h
    split at h
    · exact tells_performQuietly (Change.tells_ofSession? (.plain rfl)) _ h
    · next interaction _ hinteraction =>
      split at h
      · next change hchange =>
        exact .activated hinteraction (tells_perform (Stage.tells_change? hchange) _ h)
      · cases h
    · cases h
  | changeText nodeId text =>
    simp only [apply, changeText] at h
    split at h
    · next target hinteraction =>
      exact tells_perform (Change.tells_write (.typed hinteraction)) _ h
    · cases h
  | advance now => exact tells_performQuietly (Change.tells_advance (.plain rfl) now) _ h
  | receive origin data =>
    simp only [apply, receive] at h
    split at h
    · exact tells_performQuietly (Change.tells_ofSession? (.plain rfl)) _ h
    · cases h
  | subscribe kind => cases h
  | unsubscribe subscription => cases h
  | connect sink now => cases h
  | requestNavigation destination => cases h
  | teardown => cases h

end Preview

end Wireframe
