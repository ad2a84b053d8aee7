import Wireframe.Proofs.Replay
import Mathlib.Data.List.Basic

/-!
# The flag of the snackbar

The place in the state that a snackbar's visibility is bound to is read when a session starts, and
written whenever the snackbar is shown or hidden. Controls write the state without regard to the
snackbar. So the snackbar is visible just if its flag was set when it was shown or hidden last, or
at the start; and the two agree for as long as no control turns the flag (`Preview.flag_run`).
-/

namespace Wireframe

/-- The place in the state that a component's visibility is bound to. -/
def Component.visibleAt? (component : Component) : Option Path :=
  ((component.view.get? .visible).bind PropValue.binding?).bind Binding.statePath?

/-- The place in the state that the first snackbar with such a place is bound to. -/
def Document.boundFlag? (document : Document) : Option Path :=
  document.components.findSome? fun (_, component) =>
    if component.type = .snackbar then component.visibleAt? else none

/-- Whether the value at a path reads as true. Where nothing is, it does not. -/
def Session.flag (path : Path) (session : Session) : Bool :=
  ((session.values.lookup path).map Json.isTruthy).getD false

/-- Whether the snackbar is visible just if its flag is set. -/
def Session.InStep (path : Path) (session : Session) : Prop :=
  session.snackbarVisible = session.flag path

namespace Event

/-- Whether an event tells that the snackbar is shown or hidden. -/
def setsSnackbar : Event → Bool
  | snackbarShown => true
  | snackbarDismissed => true
  | _ => false

/-- Whether events end where the snackbar is shown or hidden, if there are any. -/
def SetsLast (events : List Event) : Prop :=
  ∀ event ∈ events.getLast?, event.setsSnackbar = true

/-- Whether an event tells that a control turns the flag at a path. -/
def Turns (path : Path) (session : Session) (event : Event) : Prop :=
  ∃ target value, event = .valueChanged target value
    ∧ (session.setValue target value).flag path ≠ session.flag path

lemma replayAll_append (before after : List Event) (session : Session) :
    replayAll (before ++ after) session = replayAll after (replayAll before session) :=
  List.foldl_append

end Event

namespace Document

variable {document : Document} {id : String} {component : Component} {path : Path}

/-- If the first snackbar is bound to the state, the session keeps its flag there. -/
lemma snackbarFlag?_eq (hpath : document.boundFlag? = some path)
    (hsnackbar : document.snackbar? = some (id, component)) (hbound : component.visibleAt?.isSome) :
    document.snackbarFlag? = some path := by
  have hfirst : document.boundFlag? = component.visibleAt? := by
    unfold boundFlag?
    unfold snackbar? at hsnackbar
    generalize document.components = components at hsnackbar ⊢
    induction components with
    | nil => cases hsnackbar
    | cons entry entries ih =>
      rw [List.find?_cons] at hsnackbar
      rw [List.findSome?_cons]
      split at hsnackbar
      · next htype =>
        cases hsnackbar
        obtain ⟨place, hplace⟩ := Option.isSome_iff_exists.mp hbound
        simp only [of_decide_eq_true htype, if_true, hplace]
      · next htype =>
        simp only [of_decide_eq_false htype, if_false]
        exact ih hsnackbar
  rw [snackbarFlag?, hsnackbar, ← hpath, hfirst, Component.visibleAt?]
  simp only [Option.bind_eq_bind, Option.bind_some, Option.bind_assoc]

end Document

namespace Session

variable {document : Document} {first last : Session} {event : Event}
  {events before after : List Event} {path : Path}

lemma inStep_initial (h : document.snackbarFlag? = some path) : (initial document).InStep path := by
  simp only [InStep, flag, initial, h, Option.bind_some]

lemma inStep_setSnackbar {session : Session} (h : session.snackbarFlag = some path)
    (visible : Bool) : (session.setSnackbar visible).InStep path := by
  simp only [InStep, flag, setSnackbar, h, Json.lookup_assign]
  rfl

/-! ### Steps -/

lemma Step.snackbarFlag_eq (h : Step document first event last) :
    last.snackbarFlag = first.snackbarFlag := by
  cases h with
  | @write target value _ => cases target <;> rfl
  | _ => rfl

/-- Only showing and hiding the snackbar does so. -/
lemma Step.snackbarVisible_eq (h : Step document first event last)
    (hevent : event.setsSnackbar = false) : last.snackbarVisible = first.snackbarVisible := by
  cases h with
  | showSnackbar _ => cases hevent
  | hideSnackbar _ => cases hevent
  | @write target value _ => cases target <;> rfl
  | _ => rfl

/-- Showing or hiding the snackbar brings it and its flag together. -/
lemma Step.inStep_of_sets (h : Step document first event last)
    (hflag : first.snackbarFlag = some path) (hevent : event.setsSnackbar = true) :
    last.InStep path := by
  cases h with
  | showSnackbar _ => exact inStep_setSnackbar hflag true
  | hideSnackbar _ => exact inStep_setSnackbar hflag false
  | _ => cases hevent

/-- A step keeps the snackbar and its flag together, unless a control turns the flag. -/
lemma Step.inStep (h : Step document first event last) (hflag : first.snackbarFlag = some path)
    (hevent : ¬event.Turns path first) (hfirst : first.InStep path) : last.InStep path := by
  cases h with
  | showSnackbar _ => exact inStep_setSnackbar hflag true
  | hideSnackbar _ => exact inStep_setSnackbar hflag false
  | @write target value _ =>
    have hturn : (first.setValue target value).flag path = first.flag path := by
      by_contra hne
      exact hevent ⟨target, value, rfl, hne⟩
    have hvisible : (first.setValue target value).snackbarVisible = first.snackbarVisible := by
      cases target <;> rfl
    exact (hvisible.trans hfirst).trans hturn.symm
  | _ => exact hfirst

/-! ### Logs -/

lemma Log.snackbarFlag_eq (h : Log document first events last) :
    last.snackbarFlag = first.snackbarFlag := by
  induction h with
  | nil => rfl
  | cons step _ ih => exact ih.trans step.snackbarFlag_eq

lemma Log.snackbarVisible_eq (h : Log document first events last)
    (hevents : ∀ event ∈ events, event.setsSnackbar = false) :
    last.snackbarVisible = first.snackbarVisible := by
  induction h with
  | nil => rfl
  | cons step _ ih =>
    obtain ⟨hevent, hevents⟩ := List.forall_mem_cons.mp hevents
    exact (ih hevents).trans (step.snackbarVisible_eq hevent)

/-- What ends where the snackbar is shown or hidden leaves it and its flag together. -/
lemma Log.inStep_of_setsLast (h : Log document first events last)
    (hflag : first.snackbarFlag = some path) (hfirst : first.InStep path)
    (hevents : Event.SetsLast events) : last.InStep path := by
  rcases List.eq_nil_or_concat' events with rfl | ⟨before, event, rfl⟩
  · rw [h.eq_of_nil]
    exact hfirst
  · obtain ⟨here, next, hbefore, hstep, hafter⟩ := h.split
    rw [hafter.eq_of_nil]
    exact hstep.inStep_of_sets (hbefore.snackbarFlag_eq.trans hflag)
      (hevents event List.getLast?_concat)

/-- As long as no control turns the flag, the snackbar and its flag stay together. -/
lemma Log.inStep (h : Log document first events last) (hflag : first.snackbarFlag = some path)
    (hfirst : first.InStep path)
    (hevents : ∀ before event after, events = before ++ event :: after →
      ¬event.Turns path (Event.replayAll before first)) : last.InStep path := by
  induction h with
  | nil => exact hfirst
  | cons step _ ih =>
    refine ih (step.snackbarFlag_eq.trans hflag)
      (step.inStep hflag (hevents [] _ _ rfl) hfirst) fun before event after heq => ?_
    have hturns := hevents (_ :: before) event after (congrArg _ heq)
    rwa [Event.replayAll, List.foldl_cons, step.replay] at hturns

end Session

/-- A page with a switch for the flag of the snackbar. -/
def Json.toaster : Json :=
  .object
    [("pages", .object
        [("Home", .object
            [("layout", .object
              [("type", .string "VerticalStack"),
                ("children", .array
                  [.object
                      [("type", .string "Switch"), ("label", .string "Saved"),
                        ("value", .string "@state.saved")],
                    .object
                      [("type", .string "Button"), ("text", .string "Save"),
                        ("interactions", .object [("Clicked", .string "showSnackbar")])]])])])]),
      ("components", .object
        [("Toast", .object
            [("type", .string "Snackbar"), ("message", .string "Saved"),
              ("isVisible", .string "@state.saved")])]),
      ("state", .object [("saved", .bool false)])]

/-- A document with two snackbars, of which only the second is bound to the state. -/
def Json.twoToasts : Json :=
  .object
    [("components", .object
        [("Hint", .object [("type", .string "Snackbar"), ("message", .string "Welcome")]),
          ("Toast", .object
            [("type", .string "Snackbar"), ("message", .string "Saved"),
              ("isVisible", .string "@state.saved")])]),
      ("state", .object [("saved", .bool true)])]

namespace Preview

/-- Where the first snackbar's visibility is bound to the state, the snackbar is visible after a run
just if its flag was set when it was shown or hidden last, or else at the start. So the two agree at
the start, whenever the snackbar was just shown or hidden, and from there for as long as no control
turns the flag. -/
theorem flag_run {canvas : Canvas} {stage : Stage} {first last : Preview} {events : List Event}
    (h : mount (some canvas) stage = .ok first) {path : Path} {id : String} {component : Component}
    (hpath : stage.document.boundFlag? = some path)
    (hsnackbar : stage.document.snackbar? = some (id, component))
    (hbound : component.visibleAt?.isSome) {operations : List Operation}
    (hrun : first.run operations = (last, events)) {before after : List Event}
    (hevents : events = before ++ after) (hbefore : Event.SetsLast before) :
    ((∀ event ∈ after, event.setsSnackbar = false) →
        last.session.snackbarVisible
          = (Event.replayAll before (Session.initial stage.document)).flag path)
      ∧ ((∀ written event rest, after = written ++ event :: rest →
          ¬event.Turns path
            (Event.replayAll (before ++ written) (Session.initial stage.document))) →
        last.session.InStep path) := by
  obtain ⟨hstage, hactivity, -⟩ := eq_of_mount h
  have hflag := Document.snackbarFlag?_eq hpath hsnackbar hbound
  have hlog := first.log_run operations
  rw [hrun, hstage, session, hactivity, stage.session_start, hevents] at hlog
  obtain ⟨middle, hset, hrest⟩ := hlog.cut
  have hmiddle := hset.inStep_of_setsLast hflag (Session.inStep_initial hflag) hbefore
  have hreplay : Event.replayAll before (Session.initial stage.document) = middle :=
    hset.replayAll
  refine ⟨fun hnone => ?_, fun hturns => ?_⟩
  · rw [hreplay]
    exact (hrest.snackbarVisible_eq hnone).trans hmiddle
  · refine hrest.inStep (hset.snackbarFlag_eq.trans hflag) hmiddle fun written event rest heq => ?_
    have hturn := hturns written event rest heq
    rwa [Event.replayAll_append, hreplay] at hturn

/-- A snackbar that was shown, and stays so while its text is looked at. -/
theorem flag_run_toaster :
    ∃ document first last events component,
      Document.ofJson? Json.toaster = .ok document
        ∧ mount (some {}) { document, options := { now := 0 } } = .ok first
        ∧ document.boundFlag? = some ⟨["saved"]⟩
        ∧ document.snackbar? = some ("Toast", component)
        ∧ component.visibleAt?.isSome
        ∧ first.run [.activate "screen/page/0/0", .activate "screen/page/0/1", .invoke "help"]
          = (last, events)
        ∧ events = [.valueChanged (.state "saved") (.bool true), .snackbarShown]
          ++ [.unknownAction "help"]
        ∧ Event.SetsLast [.valueChanged (.state "saved") (.bool true), .snackbarShown]
        ∧ last.session.InStep ⟨["saved"]⟩ := by
  obtain ⟨document, first, component, hload, hmount, hpath, hsnackbar, hbound, hevents⟩ :
      ∃ document first component,
        Document.ofJson? Json.toaster = .ok document
          ∧ mount (some {}) { document, options := { now := 0 } } = .ok first
          ∧ document.boundFlag? = some ⟨["saved"]⟩
          ∧ document.snackbar? = some ("Toast", component)
          ∧ component.visibleAt?.isSome
          ∧ (first.run [.activate "screen/page/0/0", .activate "screen/page/0/1",
              .invoke "help"]).2
            = [.valueChanged (.state "saved") (.bool true), .snackbarShown]
              ++ [.unknownAction "help"] :=
    ⟨_, _, _, rfl, rfl, by decide +kernel, rfl, by decide +kernel, rfl⟩
  have hset : Event.SetsLast [.valueChanged (.state "saved") (.bool true), .snackbarShown] := by
    intro event hevent
    cases hevent
    rfl
  refine ⟨document, first, _, _, component, hload, hmount, hpath, hsnackbar, hbound, rfl, hevents,
    hset, (flag_run hmount hpath hsnackbar hbound rfl hevents hset).2 ?_⟩
  rintro written event rest heq ⟨target, value, rfl, -⟩
  have hmem : Event.valueChanged target value ∈ [Event.unknownAction "help"] :=
    heq ▸ List.mem_append_right _ List.mem_cons_self
  cases List.mem_singleton.mp hmem

/-- A switch turns the flag and the snackbar does not follow. And a snackbar that is not bound to the
state hides the flag of the next one from the start. -/
theorem flag_run_switch_ne :
    (∃ document first,
        Document.ofJson? Json.toaster = .ok document
          ∧ mount (some {}) { document, options := { now := 0 } } = .ok first
          ∧ document.boundFlag? = some ⟨["saved"]⟩
          ∧ ¬(first.run [.activate "screen/page/0/0"]).1.session.InStep ⟨["saved"]⟩)
      ∧ ∃ document first,
        Document.ofJson? Json.twoToasts = .ok document
          ∧ mount (some {}) { document, options := { now := 0 } } = .ok first
          ∧ document.boundFlag? = some ⟨["saved"]⟩
          ∧ ¬first.session.InStep ⟨["saved"]⟩ := by
  refine ⟨⟨_, _, rfl, rfl, by decide +kernel, ?_⟩, ⟨_, _, rfl, rfl, by decide +kernel, ?_⟩⟩
  · show ¬_ = _
    decide +kernel
  · show ¬_ = _
    decide +kernel

end Preview

end Wireframe
