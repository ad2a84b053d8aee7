import Wireframe.Proofs.Addresses
import Wireframe.Proofs.CleanRuns
import Wireframe.Proofs.Nesting

/-!
# How popups end

That a button stands in the footer of the popup is handed down while drawing, so that its node says so
just if its id is below that of the footer (`Stage.fromPopupFooter_iff`). What such a button runs ends
the popup once: by itself, by opening another one, or else because the popup is closed after it
(`Preview.footer_run`). A click beside the popup closes it if it is declared; the mark that stands for
one that is not declared does nothing (`Preview.dismissal_run`).
-/

namespace Wireframe

/-! ### The footer -/

namespace Site

variable {site : Site} {draw : Draw} {action : String} {fromPopupFooter : Bool}

lemma fromPopupFooter_click (h : site.click? = some (.invoke action fromPopupFooter)) :
    fromPopupFooter = site.scope.inPopupFooter := by
  obtain ⟨clicked, -, heq⟩ := Option.map_eq_some_iff.mp h
  cases heq
  rfl

/-- A node that runs an action says of the action what its component was handed. -/
lemma fromPopupFooter_node
    (h : (site.node draw).interaction = some (.invoke action fromPopupFooter)) :
    fromPopupFooter = site.scope.inPopupFooter := by
  simp only [node, body] at h
  cases hform : site.component.type.form with
  | button => rw [hform] at h; exact fromPopupFooter_click h
  | fab => rw [hform] at h; exact fromPopupFooter_click h
  | picker =>
    rw [hform] at h
    simp only [picker, Node.picker, Node.withAttributes] at h
    split at h <;> cases h
  | generic =>
    rw [hform] at h
    simp only [other] at h
    split at h <;> cases h
  | _ => rw [hform] at h; cases h

lemma inPopupFooter_handed (site : Site) :
    site.handed.inPopupFooter = site.scope.inPopupFooter := by
  simp only [handed]
  split <;> rfl

end Site

namespace Stage

variable {stage : Stage} {session : Session} {n : Node} {action : String} {fromPopupFooter : Bool}

/-- Whatever is drawn in between, the footer of the popup is handed down to each button. -/
lemma fromPopupFooter_draw {depth : Nat} {scope : Scope} {content : Child} {id : String}
    (hn : n ∈ (stage.draw session depth scope content id).preorder)
    (h : n.interaction = some (.invoke action fromPopupFooter)) :
    fromPopupFooter = scope.inPopupFooter := by
  induction depth generalizing scope content id with
  | zero =>
    rw [Node.eq_of_mem_leaf rfl hn] at h
    cases h
  | succ depth ih =>
    rcases stage.draw_cases session depth scope content id with
      ⟨component, hdraw⟩ | ⟨reference, hdraw⟩
    · rw [hdraw] at hn
      have hactive : n.interaction ≠ none := h ▸ Option.some_ne_none _
      rcases Site.mem_preorder_node _ _ hn hactive with rfl | ⟨item, content, id, -, hn⟩
      · exact Site.fromPopupFooter_node h
      · exact (ih hn).trans (Site.inPopupFooter_handed _)
    · rw [hdraw] at hn
      rw [Node.eq_of_mem_leaf rfl hn] at h
      cases h

/-- Of what a screen begins with, the footer of the popup is below the id of the footer, and nothing
else is. -/
lemma Begun.inPopupFooter_iff {depth : Nat} {cue : Cue} (h : stage.Begun session depth cue)
    {id : String} (hid : Extends cue.id id) :
    cue.scope.inPopupFooter = true ↔ Extends (screenId ++ "/popup" ++ "/" ++ "footer") id := by
  -- the segment after the popup's id tells the footer from the rest
  have hother : ∀ {part : String}, '/' ∉ part.toList → part ≠ "footer" →
      Extends (screenId ++ "/popup" ++ "/" ++ part) id →
        (false = true ↔ Extends (screenId ++ "/popup" ++ "/" ++ "footer") id) := by
    intro part hpart hne hextends
    refine ⟨nofun, fun hfooter => ?_⟩
    exact absurd (eq_of_extends hpart (by decide) hextends hfooter) hne
  cases h with
  | page _ _ =>
    refine ⟨nofun, fun hfooter => ?_⟩
    have hlayout : Extends (screenId ++ "/" ++ "page" ++ "/" ++ "0") id := hid
    have hpage : Extends (screenId ++ "/" ++ "page") id := hlayout.of_join
    have hpopup : Extends (screenId ++ "/" ++ "popup") id := hfooter.of_join
    exact absurd (eq_of_extends (by decide) (by decide) hpage hpopup) (by decide)
  | content _ _ _ => exact hother (by decide) (by decide) hid
  | @child _ component _ i _ _ hchild =>
    obtain ⟨hi, -⟩ := List.getElem?_eq_some_iff.mp hchild
    have hindex : Nat.repr i ∈ indices component.allChildren.length :=
      List.mem_map_of_mem (List.mem_range.mpr hi)
    refine hother ((Site.segments_indices _).slashFree _ hindex) ?_ hid
    exact ne_of_mem_of_not_mem hindex (not_mem_indices (by decide) _)
  | footer _ _ _ => exact ⟨fun _ => hid, fun _ => rfl⟩

/-- A node of a screen runs an action from the footer of the popup just if its id is below that of the
footer. -/
theorem fromPopupFooter_iff (hn : n ∈ (stage.screen session).preorder)
    (h : n.interaction = some (.invoke action fromPopupFooter)) :
    fromPopupFooter = true ↔ Extends (screenId ++ "/popup" ++ "/" ++ "footer") n.id := by
  rcases begun_of_mem_screen hn with ⟨-, hofScreen⟩ | ⟨depth, cue, hbegun, hn⟩
  · cases hofScreen _ h
  · rw [fromPopupFooter_draw hn h]
    exact hbegun.inPopupFooter_iff ((stage.names_draw session _ _ _ _).within n hn)

end Stage

/-! ### Actions -/

namespace Event

/-- Whether an event tells that a popup is opened or closed. -/
def isOfPopup : Event → Bool
  | popupOpened _ | popupClosed => true
  | _ => false

def isPopupClosed : Event → Bool
  | popupClosed => true
  | _ => false

lemma countP_isPopupClosed {events : List Event} (h : ∀ event ∈ events, event.isOfPopup = false) :
    events.countP isPopupClosed = 0 := by
  refine List.countP_eq_zero.mpr fun event hevent hclosed => ?_
  cases event with
  | popupClosed => cases h _ hevent
  | _ => cases hclosed

end Event

namespace Session

variable {document : Document} {first last : Session} {event : Event} {events : List Event}

lemma Step.openPopup_eq (h : Step document first event last) (hevent : event.isOfPopup = false) :
    last.openPopup = first.openPopup := by
  cases h with
  | openPopup declared => cases hevent
  | closePopup isOpen => cases hevent
  | @write target value fresh => cases target <;> rfl
  | _ => rfl

/-- Which popup is open changes only with an event that tells of it. -/
lemma Log.openPopup_eq (h : Log document first events last)
    (hevents : ∀ event ∈ events, event.isOfPopup = false) : last.openPopup = first.openPopup := by
  induction h with
  | nil => rfl
  | cons step _ ih =>
    obtain ⟨hevent, hevents⟩ := List.forall_mem_cons.mp hevents
    exact (ih hevents).trans (step.openPopup_eq hevent)

/-- Whether a session is one in which a popup was finished, as these events tell: it was replaced by
another one, or closed once; and then a command is confirmed by the snackbar, if there is one. -/
structure Finished (document : Document) (popup : String) (events : List Event)
    (session : Session) : Prop where
  left : session.openPopup ≠ some popup
  replaced : ∀ other ≠ popup, .popupOpened other ∈ events →
    session.openPopup = some other ∧ events.countP Event.isPopupClosed = 0
  closed : (∀ other, .popupOpened other ∈ events → other = popup) →
    events.countP Event.isPopupClosed = 1
  confirmed : (∀ other, .popupOpened other ∈ events → other = popup) →
    events.any Event.isCommand → document.snackbar?.isSome → session.snackbarVisible = true

end Session

/-- Whether a change never tells of a popup. -/
def Change.LeavesPopup (change : Change) : Prop :=
  ∀ activity, ∀ event ∈ (change activity).2, event.isOfPopup = false

namespace Change

variable {activity : Activity} {popup : String}

lemma closePopup_of_open (h : activity.session.openPopup = some popup) :
    closePopup activity
      = ({ activity with session := { activity.session with openPopup := none } },
        [.popupClosed]) := by
  simp only [closePopup, ofSession?, Session.closePopup?, h, Option.isSome_some, if_true]

lemma closePopup_of_closed (h : activity.session.openPopup = none) :
    closePopup activity = (activity, []) := by
  simp only [closePopup, ofSession?, Session.closePopup?, h, Option.isSome_none,
    Bool.false_eq_true, if_false]

lemma leavesPopup_nothing : nothing.LeavesPopup := fun _ _ hevent => nomatch hevent

lemma leavesPopup_dismissSnackbar : dismissSnackbar.LeavesPopup := by
  intro activity event hevent
  simp only [dismissSnackbar, hideSnackbar, ofSession?] at hevent
  split at hevent
  · rw [List.mem_singleton.mp hevent]
    rfl
  · cases hevent

end Change

namespace Stage

variable {stage : Stage} {action popup : String} {activity : Activity}

lemma leavesPopup_showSnackbar (stage : Stage) : stage.showSnackbar.LeavesPopup := by
  intro activity event hevent
  simp only [showSnackbar] at hevent
  split at hevent
  · rw [List.mem_singleton.mp hevent]
    rfl
  · cases hevent

/-- What running an action is to the popup: it opens one, closes the open one, or lets it be. -/
lemma run_popup {after : Activity} {events : List Event}
    (h : stage.run action activity = (after, events)) :
    (∃ other, after.session.openPopup = some other ∧ events = [.popupOpened other])
      ∨ (after.session.openPopup = none ∧ events = [.popupClosed])
      ∨ ∀ event ∈ events, event.isOfPopup = false := by
  cases hdeclared : stage.document.action? (actionName action) with
  | some effect =>
    simp only [run, hdeclared] at h
    cases effect with
    | popup other => cases h; exact .inl ⟨other, rfl, rfl⟩
    | command label => cases h; exact .inr (.inr (List.forall_mem_singleton.mpr rfl))
    | other type => cases h; exact .inr (.inr (List.forall_mem_nil _))
  | none =>
    simp only [run, hdeclared] at h
    cases hbuiltin : BuiltinAction.ofName? (actionName action) with
    | none =>
      simp only [hbuiltin] at h
      cases h
      exact .inr (.inr (List.forall_mem_singleton.mpr rfl))
    | some builtin =>
      simp only [hbuiltin] at h
      cases builtin with
      | closePopup =>
        simp only [runBuiltin] at h
        cases hopen : activity.session.openPopup with
        | none =>
          rw [Change.closePopup_of_closed hopen] at h
          cases h
          exact .inr (.inr (List.forall_mem_nil _))
        | some popup =>
          rw [Change.closePopup_of_open hopen] at h
          cases h
          exact .inr (.inl ⟨rfl, rfl⟩)
      | dismissSnackbar =>
        have hleaves := Change.leavesPopup_dismissSnackbar activity
        simp only [runBuiltin] at h
        rw [h] at hleaves
        exact .inr (.inr hleaves)
      | showSnackbar =>
        have hleaves := stage.leavesPopup_showSnackbar activity
        simp only [runBuiltin] at h
        rw [h] at hleaves
        exact .inr (.inr hleaves)

lemma snackbarVisible_showSnackbar (h : stage.document.snackbar?.isSome) :
    (stage.showSnackbar activity).1.session.snackbarVisible = true := by
  rw [showSnackbar, if_pos h, session_startTimer]
  rfl

/-- What follows the closing of a popup by its footer: the snackbar confirms a command. -/
def confirmation (stage : Stage) (events : List Event) : Change :=
  if events.any Event.isCommand then stage.showSnackbar else .nothing

lemma leavesPopup_confirmation (stage : Stage) (events : List Event) :
    (stage.confirmation events).LeavesPopup := by
  unfold confirmation
  split
  · exact stage.leavesPopup_showSnackbar
  · exact Change.leavesPopup_nothing

lemma logged_confirmation (stage : Stage) (events : List Event) :
    (stage.confirmation events).Logged stage.document := by
  unfold confirmation
  split
  · exact stage.logged_showSnackbar
  · exact Change.logged_nothing

/-- A command is confirmed, and only a command. -/
lemma snackbarVisible_confirmation {events : List Event} (hdeclared : stage.document.snackbar?.isSome)
    (h : (events ++ .popupClosed :: (stage.confirmation events activity).2).any Event.isCommand) :
    (stage.confirmation events activity).1.session.snackbarVisible = true := by
  cases hran : events.any Event.isCommand with
  | true =>
    rw [confirmation, if_pos hran]
    exact snackbarVisible_showSnackbar hdeclared
  | false =>
    rw [confirmation, if_neg (ne_true_of_eq_false hran), List.any_append, hran] at h
    cases h

lemma runFromFooter_of_ne {after : Activity} {events : List Event}
    (hrun : stage.run action activity = (after, events))
    (hne : after.session.openPopup ≠ activity.session.openPopup) :
    stage.runFromFooter action activity = (after, events) := by
  simp [runFromFooter, hrun, hne]

/-- A popup that is open before and after the action is closed. -/
lemma runFromFooter_of_eq {after : Activity} {events : List Event}
    (hrun : stage.run action activity = (after, events))
    (hopen : activity.session.openPopup = some popup)
    (hafter : after.session.openPopup = some popup) :
    let closed := { after with session := { after.session with openPopup := none } }
    stage.runFromFooter action activity
      = ((stage.confirmation events closed).1,
        events ++ .popupClosed :: (stage.confirmation events closed).2) := by
  simp only [runFromFooter, hrun, hopen, hafter, Option.isSome_some, and_self, if_true,
    Change.andThen, Change.closePopup_of_open hafter, List.singleton_append]
  rfl

/-- A popup that is closed after the action is finished. -/
lemma finished_of_eq {after : Activity} {events : List Event}
    (hrun : stage.run action activity = (after, events))
    (hopen : activity.session.openPopup = some popup)
    (hafter : after.session.openPopup = some popup)
    (hopened : ∀ other, .popupOpened other ∈ events → other = popup)
    (hcount : events.countP Event.isPopupClosed = 0) :
    (stage.runFromFooter action activity).1.session.Finished stage.document popup
      (stage.runFromFooter action activity).2 := by
  rw [runFromFooter_of_eq hrun hopen hafter]
  let closed := { after with session := { after.session with openPopup := none } }
  have hleaves := stage.leavesPopup_confirmation events closed
  refine ⟨?_, fun other hne hevent => ?_, fun _ => ?_, fun _ hcommand hdeclared => ?_⟩
  · rw [(stage.logged_confirmation events closed).openPopup_eq hleaves]
    exact (Option.some_ne_none popup).symm
  · rcases List.mem_append.mp hevent with hevent | hevent
    · exact absurd (hopened other hevent) hne
    · rcases List.mem_cons.mp hevent with heq | hevent
      · cases heq
      · cases hleaves _ hevent
  · rw [List.countP_append, hcount, List.countP_cons, Event.countP_isPopupClosed hleaves]
    rfl
  · exact snackbarVisible_confirmation hdeclared hcommand

/-- What runs from the footer of a popup finishes the popup. -/
lemma finished_runFromFooter (hopen : activity.session.openPopup = some popup) :
    (stage.runFromFooter action activity).1.session.Finished stage.document popup
      (stage.runFromFooter action activity).2 := by
  generalize hrun : stage.run action activity = outcome
  obtain ⟨after, events⟩ := outcome
  rcases run_popup hrun with ⟨other, hafter, rfl⟩ | ⟨hnone, rfl⟩ | hleaves
  · by_cases heq : other = popup
    · subst heq
      exact finished_of_eq hrun hopen hafter (by simp) rfl
    · have hne : after.session.openPopup ≠ some popup := by simpa [hafter] using heq
      rw [runFromFooter_of_ne hrun (hopen ▸ hne)]
      refine ⟨hne, fun opened _ hevent => ?_, by simp [heq], by simp [heq]⟩
      cases List.mem_singleton.mp hevent
      exact ⟨hafter, rfl⟩
  · have hne : after.session.openPopup ≠ some popup := by simp [hnone]
    rw [runFromFooter_of_ne hrun (hopen ▸ hne)]
    exact ⟨hne, by simp, fun _ => rfl, by simp [Event.isCommand]⟩
  · have hlog := (stage.composed_run action).logged activity
    rw [hrun] at hlog
    refine finished_of_eq hrun hopen ((hlog.openPopup_eq hleaves).trans hopen) ?_
      (Event.countP_isPopupClosed hleaves)
    intro other hevent
    cases hleaves _ hevent

end Stage

namespace Preview

variable {preview : Preview} {canvas : Canvas} {stage : Stage} {first : Preview}

/-! ### Footers of popups -/

/-- In a loaded document, after any run: a node runs its action from the footer of the popup just if its
id is below that of the footer; and until the preview is torn down, activating such a node finishes the
popup that is open. -/
theorem footer_run (hloaded : stage.document.Loaded) (h : mount (some canvas) stage = .ok first)
    (operations : List Operation) {n : Node} (hn : n ∈ (first.run operations).1.screen.preorder)
    {action : String} {fromPopupFooter : Bool}
    (hinvoke : n.interaction = some (.invoke action fromPopupFooter)) :
    (fromPopupFooter = true ↔ Extends (screenId ++ "/popup/footer") n.id)
      ∧ (.teardown ∉ operations → Extends (screenId ++ "/popup/footer") n.id →
        ∀ popup, (first.run operations).1.session.openPopup = some popup →
          ((first.run operations).1.activate n.id).1.session.Finished stage.document popup
            ((first.run operations).1.activate n.id).2) := by
  have hcurrent := (current_of_mount h).run operations
  have hstage : (first.run operations).1.stage = stage := stage_run_of_mount h operations
  have hfooter : fromPopupFooter = true ↔ Extends (screenId ++ "/popup/footer") n.id := by
    rw [hcurrent.screen] at hn
    exact Stage.fromPopupFooter_iff hn hinvoke
  refine ⟨hfooter, fun hnotin hbelow popup hopen => ?_⟩
  rw [← hstage] at hloaded
  have hactivate : (first.run operations).1.activate n.id
      = (first.run operations).1.perform (stage.runFromFooter action) := by
    simp only [activate, (hcurrent.interaction?_eq hloaded hn).2, hinvoke, hfooter.mpr hbelow,
      Stage.change?, if_true, hstage]
  rw [hactivate, perform_of_live (live_run_of_mount h hnotin)]
  exact Stage.finished_runFromFooter hopen

/-- A node that a search finds, if the node that is found runs an action. -/
lemma exists_invoke_of_find? {screen : Node} {id : String}
    (h : (screen.find? id).any fun n => n.interaction.any (· matches .invoke _ _)) :
    ∃ n ∈ screen.preorder, n.id = id
      ∧ ∃ action fromPopupFooter, n.interaction = some (.invoke action fromPopupFooter) := by
  cases hfind : screen.find? id with
  | none =>
    rw [hfind] at h
    cases h
  | some n =>
    rw [hfind, Option.any_some] at h
    have hid : n.id = id := by
      rw [Node.find?_eq] at hfind
      simpa using List.find?_some hfind
    refine ⟨n, Node.mem_of_find? hfind, hid, ?_⟩
    cases hinteraction : n.interaction with
    | none =>
      rw [hinteraction] at h
      cases h
    | some interaction =>
      rw [hinteraction] at h
      cases interaction with
      | invoke action fromPopupFooter => exact ⟨action, fromPopupFooter, rfl⟩
      | _ => cases h

theorem footer_run_loans :
    ∃ document first n action fromPopupFooter,
      document.Loaded
        ∧ mount (some {}) { document, options := { now := 0 } } = .ok first
        ∧ n ∈ (first.run [.invoke "openEditor"]).1.screen.preorder
        ∧ n.interaction = some (.invoke action fromPopupFooter)
        ∧ n.id = screenId ++ "/popup/footer"
        ∧ (first.run [.invoke "openEditor"]).1.session.openPopup = some "Editor"
        ∧ fromPopupFooter = true
        ∧ ((first.run [.invoke "openEditor"]).1.activate n.id).1.session.Finished document "Editor"
          ((first.run [.invoke "openEditor"]).1.activate n.id).2 := by
  obtain ⟨document, first, hload, hmount, hinvoke, hopen⟩ : ∃ document first,
      Document.ofJson? Json.loans = .ok document
        ∧ mount (some {}) { document, options := { now := 0 } } = .ok first
        ∧ (((first.run [.invoke "openEditor"]).1.screen.find? (screenId ++ "/popup/footer")).any
          fun n => n.interaction.any (· matches .invoke _ _))
        ∧ (first.run [.invoke "openEditor"]).1.session.openPopup = some "Editor" :=
    ⟨_, _, rfl, rfl, by decide +kernel, rfl⟩
  obtain ⟨n, hn, hid, action, fromPopupFooter, hinteraction⟩ := exists_invoke_of_find? hinvoke
  have hloaded : document.Loaded := ⟨Json.loans, rfl, hload⟩
  have hbelow : Extends (screenId ++ "/popup/footer") n.id := .inl hid
  obtain ⟨hfooter, hfinished⟩ := @footer_run _ { document, options := { now := 0 } } _ hloaded hmount
    _ _ hn _ _ hinteraction
  exact ⟨document, first, n, action, fromPopupFooter, hloaded, hmount, hn, hinteraction, hid, hopen,
    hfooter.mpr hbelow, hfinished (by simp) hbelow "Editor" hopen⟩

/-- Once the preview is torn down, a popup stays open whatever its footer is to do. -/
theorem activate_footer_tornDown_loans :
    ∃ document first n action fromPopupFooter,
      document.Loaded
        ∧ mount (some {}) { document, options := { now := 0 } } = .ok first
        ∧ n ∈ (first.run [.invoke "openEditor", .teardown]).1.screen.preorder
        ∧ n.interaction = some (.invoke action fromPopupFooter)
        ∧ n.id = screenId ++ "/popup/footer"
        ∧ (first.run [.invoke "openEditor", .teardown]).1.session.openPopup = some "Editor"
        ∧ ((first.run [.invoke "openEditor", .teardown]).1.activate n.id).1.session.openPopup
          = some "Editor" := by
  obtain ⟨document, first, hload, hmount, hinvoke, hopen, hstays⟩ : ∃ document first,
      Document.ofJson? Json.loans = .ok document
        ∧ mount (some {}) { document, options := { now := 0 } } = .ok first
        ∧ (((first.run [.invoke "openEditor", .teardown]).1.screen.find?
          (screenId ++ "/popup/footer")).any fun n => n.interaction.any (· matches .invoke _ _))
        ∧ (first.run [.invoke "openEditor", .teardown]).1.session.openPopup = some "Editor"
        ∧ ((first.run [.invoke "openEditor", .teardown]).1.activate
          (screenId ++ "/popup/footer")).1.session.openPopup = some "Editor" :=
    ⟨_, _, rfl, rfl, by decide +kernel, rfl, by decide +kernel⟩
  obtain ⟨n, hn, hid, action, fromPopupFooter, hinteraction⟩ := exists_invoke_of_find? hinvoke
  exact ⟨document, first, n, action, fromPopupFooter, ⟨Json.loans, rfl, hload⟩, hmount, hn,
    hinteraction, hid, hopen, hid ▸ hstays⟩

/-! ### Beside the popup -/

/-- The id of the popup leads to what the popup or the mark in its place does. -/
lemma Current.interaction?_popup (h : preview.Current) (hloaded : preview.stage.document.Loaded)
    {popup : String} (hopen : preview.session.openPopup = some popup) :
    preview.interaction? (screenId ++ "/popup")
      = (preview.stage.popup preview.session popup).interaction := by
  have hmem : preview.stage.popup preview.session popup ∈ preview.screen.preorder := by
    refine Node.mem_preorder.mpr (.inr ⟨_, ?_, Node.mem_preorder_self _⟩)
    rw [h.screen]
    simp [Stage.screen, hopen]
  have hid : (preview.stage.popup preview.session popup).id = screenId ++ "/popup" :=
    (preview.stage.named_popup preview.session popup).root
  rw [← hid]
  exact (h.interaction?_eq hloaded hmem).2

/-- In a loaded document, after any run that does not end the preview: a click beside the open popup
closes it if it is declared, and tells of nothing else. For a popup that is not declared there is only a
mark, which does nothing. -/
theorem dismissal_run (hloaded : stage.document.Loaded) (h : mount (some canvas) stage = .ok first)
    {operations : List Operation} (hnotin : .teardown ∉ operations) {popup : String}
    (hopen : (first.run operations).1.session.openPopup = some popup) :
    ((stage.document.component? popup).isSome →
        ((first.run operations).1.activate (screenId ++ "/popup")).2 = [.popupClosed]
          ∧ ((first.run operations).1.activate (screenId ++ "/popup")).1.session.openPopup = none)
      ∧ (stage.document.component? popup = none →
        (first.run operations).1.activate (screenId ++ "/popup")
          = ((first.run operations).1, [])) := by
  have hstage : (first.run operations).1.stage = stage := stage_run_of_mount h operations
  rw [← hstage] at hloaded
  have hinteraction := ((current_of_mount h).run operations).interaction?_popup hloaded hopen
  rw [hstage] at hinteraction
  refine ⟨fun hdeclared => ?_, fun hundeclared => ?_⟩
  · obtain ⟨component, hfound⟩ := Option.isSome_iff_exists.mp hdeclared
    have hcloses : (stage.popup (first.run operations).1.session popup).interaction
        = some .closePopup := by
      simp only [Stage.popup, hfound]
      rfl
    have hactivate : (first.run operations).1.activate (screenId ++ "/popup")
        = (first.run operations).1.perform .closePopup := by
      simp only [activate, hinteraction, hcloses, Stage.change?]
    rw [hactivate, perform_of_live (live_run_of_mount h hnotin), Change.closePopup_of_open hopen]
    exact ⟨rfl, rfl⟩
  · have hmark : (stage.popup (first.run operations).1.session popup).interaction = none := by
      simp only [Stage.popup, hundeclared]
      rfl
    simp only [activate, hinteraction, hmark]

theorem dismissal_run_loans :
    ∃ document first,
      document.Loaded
        ∧ mount (some {}) { document, options := { now := 0 } } = .ok first
        ∧ (first.run [.invoke "openEditor"]).1.session.openPopup = some "Editor"
        ∧ (document.component? "Editor").isSome
        ∧ ((first.run [.invoke "openEditor"]).1.activate (screenId ++ "/popup")).2 = [.popupClosed]
        ∧ ((first.run [.invoke "openEditor"]).1.activate
          (screenId ++ "/popup")).1.session.openPopup = none :=
  have hloaded := ⟨Json.loans, rfl, rfl⟩
  ⟨_, _, hloaded, rfl, rfl, rfl,
    (@dismissal_run _ { document := _, options := { now := 0 } } _ hloaded rfl _
      (by simp : .teardown ∉ [Operation.invoke "openEditor"]) _ rfl).1 rfl⟩

/-- The document does not declare the popup that its action opens, and a click beside it does not close
it. -/
theorem dismissal_launcher_ne :
    ∃ document first,
      document.Loaded
        ∧ mount (some {}) { document, options := { now := 0 } } = .ok first
        ∧ (first.run [.invoke "open"]).1.session.openPopup = some "Panel"
        ∧ ((first.run [.invoke "open"]).1.activate (screenId ++ "/popup")).2.isEmpty
        ∧ ((first.run [.invoke "open"]).1.activate (screenId ++ "/popup")).1.session.openPopup
          = some "Panel" := by
  obtain ⟨document, first, hload, hrest⟩ : ∃ document first,
      Document.ofJson? Json.launcher = .ok document
        ∧ mount (some {}) { document, options := { now := 0 } } = .ok first
        ∧ (first.run [.invoke "open"]).1.session.openPopup = some "Panel"
        ∧ ((first.run [.invoke "open"]).1.activate (screenId ++ "/popup")).2.isEmpty
        ∧ ((first.run [.invoke "open"]).1.activate (screenId ++ "/popup")).1.session.openPopup
          = some "Panel" :=
    ⟨_, _, rfl, rfl, rfl, by decide +kernel, by decide +kernel⟩
  exact ⟨document, first, ⟨Json.launcher, rfl, hload⟩, hrest⟩

end Preview

end Wireframe
