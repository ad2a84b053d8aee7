import Wireframe.Document.Loading
import Wireframe.Preview.Operation
import Mathlib.Tactic.Common

/-!
# What operations do

An operation on a preview makes a change and draws the screen, or makes a change quietly, or only
concerns the host, or ends the preview: `Preview.apply_cases`. A change on offer moves the clock, or is
made of a few kinds of steps: `Stage.Offers.cases`. What every operation keeps holds after every run:
`Preview.run_induction`.
-/

namespace Wireframe

/-- A small document: two tabs with their pages, a popup, and a snackbar with a flag in the state. -/
def Json.loans : Json :=
  .object
    [("tabs", .object
        [("Home", .object [("page", .string "HomePage")]),
          ("List", .object [("page", .string "ListPage")])]),
      ("pages", .object
        [("HomePage", .object
            [("layout", .object
              [("type", .string "VerticalStack"),
                ("children", .array
                  [.object [("type", .string "Entry"), ("label", .string "Notes")],
                    .object
                      [("type", .string "Button"), ("text", .string "Add"),
                        ("interactions", .object [("Clicked", .string "actions.openEditor")])]])])]),
          ("ListPage", .object [])]),
      ("components", .object
        [("Editor", .object
            [("type", .string "Popup"), ("title", .string "New loan"),
              ("footer", .object
                [("type", .string "Button"), ("text", .string "Save"),
                  ("interactions", .object [("Clicked", .string "actions.saveLoan")])])]),
          ("Saved", .object
            [("type", .string "Snackbar"), ("message", .string "Saved"),
              ("isVisible", .string "@state.saved")])]),
      ("actions", .object
        [("openEditor", .object [("type", .string "popup"), ("target", .string "Editor")]),
          ("saveLoan", .object [("type", .string "command"), ("command", .string "loans.save")])])]

/-- A page of settings: a switch for a reminder, a check box and a radio group of their own, a picker for
a size, and two switches, for a value that refers to sample data and for one that is not there. -/
def Json.settings : Json :=
  .object
    [("pages", .object
        [("Settings", .object
            [("layout", .object
              [("type", .string "VerticalStack"),
                ("children", .array
                  [.object
                      [("type", .string "Switch"), ("label", .string "Remind me"),
                        ("value", .string "@state.remind")],
                    .object [("type", .string "CheckBox"), ("label", .string "Sounds")],
                    .object
                      [("type", .string "RadioButtonGroup"), ("label", .string "Summary"),
                        ("children", .array
                          [.object [("type", .string "RadioButton"), ("value", .string "daily")],
                            .object
                              [("type", .string "VerticalStack"),
                                ("children", .array
                                  [.object
                                    [("type", .string "RadioButton"),
                                      ("value", .string "weekly")]])]])],
                    .object
                      [("type", .string "Picker"), ("label", .string "Size"),
                        ("options", .array [.string "S", .string "M", .string "L"]),
                        ("value", .string "@state.size")],
                    .object
                      [("type", .string "Switch"), ("label", .string "Sync"),
                        ("value", .string "@state.sync")],
                    .object
                      [("type", .string "Switch"), ("label", .string "Offline"),
                        ("value", .string "@state.offline")]])])])]),
      ("sampleData", .object [("sync", .bool false)]),
      ("state", .object [("remind", .bool true), ("sync", .string "@sampleData.sync")])]

/-- The changes that operations on a preview make. -/
inductive Stage.Offers (stage : Stage) : Change → Prop where
  | selectTab (tab : String) : Offers stage (stage.selectTab tab)
  | run (action : String) : Offers stage (stage.run action)
  | closePopup : Offers stage .closePopup
  | showSnackbar : Offers stage stage.showSnackbar
  | dismissSnackbar : Offers stage .dismissSnackbar
  | interaction {interaction : Interaction} {change : Change}
      (h : stage.change? interaction = some change) : Offers stage change
  | write (target : Target) (value : Json) : Offers stage (.write target value)
  | advance (now : Nat) : Offers stage (.advance now)

/-! ### Steps of changes -/

/-- The changes that are made of single steps, one after the other. Which steps follow may depend on
what goes on. -/
inductive Stage.Composed (stage : Stage) : Change → Prop where
  | nothing : Composed stage .nothing
  | selectTab (tab : String) : Composed stage (stage.selectTab tab)
  | closePopup : Composed stage .closePopup
  | openPopup {name popup : String} (declared : stage.document.action? name = some (.popup popup)) :
      Composed stage (.openPopup popup)
  | command {name label : String} (declared : stage.document.action? name = some (.command label)) :
      Composed stage fun activity => (activity, [.command name label])
  | unknownAction {name : String} (undeclared : stage.document.action? name = none)
      (notBuiltin : BuiltinAction.ofName? name = none) :
      Composed stage fun activity => (activity, [.unknownAction name])
  | showSnackbar : Composed stage stage.showSnackbar
  | dismissSnackbar : Composed stage .dismissSnackbar
  | write (target : Target) (value : Json) : Composed stage (.write target value)
  | andThen {first second : Change} (h : Composed stage first) (h' : Composed stage second) :
      Composed stage (first.andThen second)
  | dependent {change : Activity → Change} (h : ∀ activity, Composed stage (change activity)) :
      Composed stage fun activity => change activity activity

namespace Stage

variable (stage : Stage)

lemma composed_run (action : String) : stage.Composed (stage.run action) := by
  simp only [run]
  split
  · next popup declared => exact .openPopup declared
  · next label declared => exact .command declared
  · exact .nothing
  · next undeclared =>
    split
    · next builtin _ =>
      cases builtin with
      | closePopup => exact .closePopup
      | dismissSnackbar => exact .dismissSnackbar
      | showSnackbar => exact .showSnackbar
    · next notBuiltin => exact .unknownAction undeclared notBuiltin

/-- An action that may be missing. -/
lemma composed_getD_run (action : Option String) :
    stage.Composed ((action.map stage.run).getD .nothing) := by
  cases action with
  | none => exact .nothing
  | some action => exact stage.composed_run action

lemma composed_runFromFooter (action : String) : stage.Composed (stage.runFromFooter action) := by
  -- whether the popup is closed, and the snackbar shown, is known once the action was run
  let last (activity : Activity) : Change :=
    let ran := stage.run action activity
    if activity.session.openPopup.isSome ∧ ran.1.session.openPopup = activity.session.openPopup
    then Change.closePopup.andThen
      (if ran.2.any Event.isCommand then stage.showSnackbar else .nothing)
    else .nothing
  have hlast : ∀ activity, stage.Composed (last activity) := by
    intro activity
    simp only [last]
    split
    · refine .andThen .closePopup ?_
      split
      · exact .showSnackbar
      · exact .nothing
    · exact .nothing
  have heq : stage.runFromFooter action
      = fun activity => (stage.run action).andThen (last activity) activity := by
    funext activity
    simp only [runFromFooter, last, Change.andThen]
    split
    · rfl
    · simp [Change.nothing]
  rw [heq]
  exact .dependent fun activity => (stage.composed_run action).andThen (hlast activity)

lemma composed_change? {interaction : Interaction} {change : Change}
    (h : stage.change? interaction = some change) : stage.Composed change := by
  cases interaction with
  | selectTab tab => cases h; exact .selectTab tab
  | invoke action fromPopupFooter =>
    cases h
    split
    · exact stage.composed_runFromFooter action
    · exact stage.composed_run action
  | closePopup => cases h; exact .closePopup
  | dismissSnackbar => cases h; exact .dismissSnackbar
  | snackbarAction action =>
    cases h
    exact (stage.composed_getD_run action).andThen .dismissSnackbar
  | cyclePicker target options current =>
    cases h
    cases options[(current.map fun i => (i + 1) % options.length).getD 0]? with
    | none => exact .nothing
    | some value => exact .write target value
  | toggle target current followUp =>
    cases h
    exact .andThen (.write _ _) (stage.composed_getD_run followUp)
  | selectRadio target value => cases h; exact .write target value
  | editText target => cases h

/-- What is on offer only moves the clock, or is made of single steps. -/
theorem Offers.cases {stage : Stage} {change : Change} (h : stage.Offers change) :
    (∃ now, change = .advance now) ∨ stage.Composed change := by
  cases h with
  | selectTab tab => exact .inr (.selectTab tab)
  | run action => exact .inr (stage.composed_run action)
  | closePopup => exact .inr .closePopup
  | showSnackbar => exact .inr .showSnackbar
  | dismissSnackbar => exact .inr .dismissSnackbar
  | interaction h => exact .inr (stage.composed_change? h)
  | write target value => exact .inr (.write target value)
  | advance now => exact .inl ⟨now, rfl⟩

end Stage

/-! ### Outcomes -/

namespace Preview

/-- What an operation comes to. -/
inductive Outcome (preview : Preview) (operation : Operation) : Preview × List Event → Prop where
  | performed {change : Change} (offered : preview.stage.Offers change) :
      Outcome preview operation (preview.perform change)
  | performedQuietly {change : Change} (offered : preview.stage.Offers change) :
      Outcome preview operation (preview.performQuietly change)
  | hosted (host : Adapter) : Outcome preview operation ({ preview with host }, [])
  | tornDown (h : operation = .teardown) : Outcome preview operation (preview.teardown, [])

variable (preview : Preview)

lemma outcome_unchanged (operation : Operation) : Outcome preview operation (preview, []) :=
  .hosted preview.host

lemma outcome_activate (nodeId : String) (operation : Operation) :
    Outcome preview operation (preview.activate nodeId) := by
  simp only [activate]
  split
  · next tab _ => exact .performedQuietly (.selectTab tab)
  · split
    · next change h => exact .performed (.interaction h)
    · exact preview.outcome_unchanged operation
  · exact preview.outcome_unchanged operation

/-- Every operation is accounted for by one of the outcomes. -/
theorem apply_cases (operation : Operation) :
    Outcome preview operation (preview.apply operation) := by
  cases operation with
  | selectTab tab => exact .performedQuietly (.selectTab tab)
  | invoke action => exact .performed (.run action)
  | closePopup => exact .performedQuietly .closePopup
  | showSnackbar => exact .performed .showSnackbar
  | dismissSnackbar => exact .performed .dismissSnackbar
  | activate nodeId => exact preview.outcome_activate nodeId _
  | changeText nodeId text =>
    simp only [apply, changeText]
    split
    · next target _ => exact .performed (.write target (.string text))
    · exact preview.outcome_unchanged _
  | advance now => exact .performedQuietly (.advance now)
  | receive origin data =>
    simp only [apply, receive]
    split
    · next tab _ => exact .performedQuietly (.selectTab tab)
    · exact preview.outcome_unchanged _
  | subscribe kind => exact .hosted _
  | unsubscribe subscription => exact .hosted _
  | connect sink now => exact .hosted _
  | requestNavigation destination => exact .hosted _
  | teardown => exact .tornDown rfl

/-! ### Performing changes -/

variable {preview} {change : Change}

lemma perform_of_tornDown (h : preview.tornDown = true) :
    preview.perform change = (preview, []) := by
  simp [perform, h]

lemma performQuietly_of_tornDown (h : preview.tornDown = true) :
    preview.performQuietly change = (preview, []) := by
  simp [performQuietly, h]

lemma perform_of_live (h : preview.tornDown = false) :
    preview.perform change =
      ({ preview with activity := (change preview.activity).1 }.redraw,
        (change preview.activity).2) := by
  simp [perform, h]

lemma performQuietly_of_live (h : preview.tornDown = false) :
    preview.performQuietly change =
      (if (change preview.activity).2.isEmpty
        then { preview with activity := (change preview.activity).1 }
        else { preview with activity := (change preview.activity).1 }.redraw,
        (change preview.activity).2) := by
  simp [performQuietly, h]

/-! ### What stays -/

lemma eq_of_mount {canvas : Canvas} {stage : Stage} (h : mount (some canvas) stage = .ok preview) :
    preview.stage = stage ∧ preview.activity = stage.start ∧ preview.tornDown = false := by
  cases h
  exact ⟨rfl, rfl, rfl⟩

variable (preview)

@[simp] lemma tornDown_redraw : preview.redraw.tornDown = preview.tornDown := rfl

@[simp] lemma stage_perform (change : Change) :
    (preview.perform change).1.stage = preview.stage := by
  simp only [perform]
  split <;> rfl

@[simp] lemma stage_performQuietly (change : Change) :
    (preview.performQuietly change).1.stage = preview.stage := by
  simp only [performQuietly]
  split
  · rfl
  · dsimp only
    split <;> rfl

lemma session_perform (change : Change) :
    (preview.perform change).1.session
      = if preview.tornDown then preview.session else (change preview.activity).1.session := by
  simp only [perform]
  split <;> rfl

lemma session_performQuietly (change : Change) :
    (preview.performQuietly change).1.session
      = if preview.tornDown then preview.session else (change preview.activity).1.session := by
  simp only [performQuietly]
  split
  · rfl
  · dsimp only
    split <;> rfl

@[simp] lemma stage_teardown : preview.teardown.stage = preview.stage := by
  simp only [teardown]
  split <;> rfl

@[simp] lemma session_teardown : preview.teardown.session = preview.session := by
  simp only [teardown]
  split <;> rfl

@[simp] lemma tornDown_teardown : preview.teardown.tornDown = true := by
  simp only [teardown]
  split
  · next h => exact h
  · rfl

@[simp] lemma stage_apply (operation : Operation) :
    (preview.apply operation).1.stage = preview.stage := by
  generalize hnext : preview.apply operation = next
  have h := preview.apply_cases operation
  rw [hnext] at h
  cases h <;> simp

@[simp] lemma stage_run (operations : List Operation) :
    (preview.run operations).1.stage = preview.stage := by
  induction operations generalizing preview with
  | nil => rfl
  | cons operation operations ih => simp [run_cons, ih]

variable {preview}

/-- Only the end of a preview ends it. -/
lemma tornDown_apply {operation : Operation} (h : operation ≠ .teardown) :
    (preview.apply operation).1.tornDown = preview.tornDown := by
  generalize hnext : preview.apply operation = next
  have houtcome := preview.apply_cases operation
  rw [hnext] at houtcome
  cases houtcome with
  | performed _ => unfold perform; split <;> rfl
  | performedQuietly _ =>
    simp only [performQuietly]
    split
    · rfl
    · dsimp only
      split <;> rfl
  | hosted host => rfl
  | tornDown heq => exact absurd heq h

/-- What every operation of a run keeps holds after it. -/
lemma run_induction_of_mem {p : Preview → Prop} {operations : List Operation}
    (step : ∀ preview, ∀ operation ∈ operations, p preview → p (preview.apply operation).1)
    (h : p preview) : p (preview.run operations).1 := by
  induction operations generalizing preview with
  | nil => exact h
  | cons operation operations ih =>
    exact ih (fun preview later hlater => step preview later (List.mem_cons_of_mem _ hlater))
      (step preview operation List.mem_cons_self h)

/-- What every operation keeps holds after every run. -/
lemma run_induction {p : Preview → Prop}
    (step : ∀ preview operation, p preview → p (preview.apply operation).1)
    (h : p preview) (operations : List Operation) : p (preview.run operations).1 :=
  run_induction_of_mem (fun preview operation _ => step preview operation) h

lemma tornDown_run {operations : List Operation} (h : .teardown ∉ operations) :
    (preview.run operations).1.tornDown = preview.tornDown := by
  refine run_induction_of_mem (p := fun last => last.tornDown = preview.tornDown) ?_ rfl
  intro last operation hmem hlast
  have hne : operation ≠ .teardown := ne_of_mem_of_not_mem hmem h
  exact (tornDown_apply hne).trans hlast

/-! ### Runs of a mounted preview -/

variable {canvas : Canvas} {stage : Stage} {first : Preview}

lemma stage_run_of_mount (h : mount (some canvas) stage = .ok first) (operations : List Operation) :
    (first.run operations).1.stage = stage :=
  (first.stage_run operations).trans (eq_of_mount h).1

lemma live_run_of_mount (h : mount (some canvas) stage = .ok first) {operations : List Operation}
    (hnotin : .teardown ∉ operations) : (first.run operations).1.tornDown = false :=
  (tornDown_run hnotin).trans (eq_of_mount h).2.2

end Preview

end Wireframe
