import Wireframe.Proofs.Operations

/-!
# Declared actions

The name under which an action is declared runs it, with the namespace before it or without, and also
where a built-in action has the same name (`Preview.declared_run`). The namespace is taken off every
name, so that a name that itself begins with it is out of reach; and a preview that was torn down runs
nothing.
-/

namespace Wireframe

/-! ### Names -/

/-- Whether a text begins with the namespace of actions. -/
def Namespaced (text : String) : Prop :=
  ∃ name, text = "actions." ++ name

lemma actionName_namespaced (name : String) : actionName ("actions." ++ name) = name := by
  rw [actionName, Text.dropStart?_eq_some_iff.mpr rfl, Option.getD_some]

lemma actionName_of_not_namespaced {name : String} (h : ¬ Namespaced name) :
    actionName name = name := by
  have hnone : Text.dropStart? "actions." name = none := by
    rw [Option.eq_none_iff_forall_ne_some]
    exact fun rest hrest => h ⟨rest, Text.dropStart?_eq_some_iff.mp hrest⟩
  rw [actionName, hnone, Option.getD_none]

lemma Document.action?_of_not_namespaced (document : Document) {name : String}
    (h : ¬ Namespaced name) : document.action? name = document.actions.get? name := by
  rw [action?, actionName_of_not_namespaced h]

/-! ### Effects -/

namespace Effect

/-- The session once the action has run. -/
def after : Effect → Session → Session
  | popup id, session => session.withPopup id
  | command _, session => session
  | other _, session => session

/-- What an embedder is told of an action with this name. -/
def events (name : String) : Effect → List Event
  | popup id => [.popupOpened id]
  | command label => [.command name label]
  | other _ => []

end Effect

namespace Stage

variable {stage : Stage} {name : String}

lemma run_namespaced (h : ¬ Namespaced name) : stage.run ("actions." ++ name) = stage.run name := by
  rw [run, run, actionName_namespaced, actionName_of_not_namespaced h]

/-- A declared action comes before a built-in one. -/
lemma run_of_declared (h : ¬ Namespaced name) {effect : Effect}
    (hdeclared : stage.document.actions.get? name = some effect) :
    stage.run name = fun activity =>
      ({ activity with session := effect.after activity.session }, effect.events name) := by
  funext activity
  rw [run, actionName_of_not_namespaced h, stage.document.action?_of_not_namespaced h, hdeclared]
  cases effect <;> rfl

end Stage

namespace Preview

variable {preview : Preview} {name : String} {effect : Effect}

lemma invoke_namespaced (h : ¬ Namespaced name) :
    preview.invoke ("actions." ++ name) = preview.invoke name := by
  rw [invoke, invoke, Stage.run_namespaced h]

/-- Nothing but the session changes, and the screen is drawn again. -/
lemma invoke_of_declared (hlive : preview.tornDown = false) (h : ¬ Namespaced name)
    (hdeclared : preview.stage.document.actions.get? name = some effect) :
    preview.invoke name =
      ({ preview with
          activity :=
            { preview.activity with session := effect.after preview.session } }.redraw,
        effect.events name) := by
  rw [invoke, perform_of_live hlive, Stage.run_of_declared h hdeclared]
  rfl

/-- Unless it begins with the namespace, the name of a declared action runs it from wherever a preview
has come to, and so does the name with the namespace before it: the session and the events are those of
its effect, whether or not there is a built-in action of this name. After the end nothing is run. -/
theorem declared_run {canvas : Canvas} {stage : Stage} {first last : Preview}
    {operations : List Operation} (h : mount (some canvas) stage = .ok first)
    (hlast : (first.run operations).1 = last) (hname : ¬ Namespaced name)
    (hdeclared : stage.document.actions.get? name = some effect) :
    last.invoke ("actions." ++ name) = last.invoke name
      ∧ (last.tornDown = false → (last.invoke name).1.session = effect.after last.session
        ∧ (last.invoke name).2 = effect.events name)
      ∧ (last.tornDown = true → last.invoke name = (last, [])) := by
  refine ⟨invoke_namespaced hname, fun hlive => ?_, perform_of_tornDown⟩
  have hstage : last.stage = stage := hlast ▸ stage_run_of_mount h operations
  rw [invoke_of_declared hlive hname (hstage ▸ hdeclared)]
  exact ⟨rfl, rfl⟩

end Preview

/-- Three declared popups: one takes the name of a built-in action, and one has the namespace in its
name. -/
def Json.panels : Json :=
  .object
    [("components", .object
        [("Panel", .object [("type", .string "Popup"), ("title", .string "Panel")])]),
      ("actions", .object
        [("open", .object [("type", .string "popup"), ("target", .string "Panel")]),
          ("closePopup", .object [("type", .string "popup"), ("target", .string "Panel")]),
          ("actions.save", .object [("type", .string "popup"), ("target", .string "Panel")])])]

namespace Preview

lemma not_namespaced_closePopup : ¬ Namespaced "closePopup" := by
  rintro ⟨name, h⟩
  have hchars := congrArg String.toList h
  rw [String.toList_append] at hchars
  cases hchars

/-- The popup stays open: what is declared as `closePopup` opens it once more. -/
theorem declared_run_panels :
    ∃ (document : Document) (first last : Preview),
      Document.ofJson? Json.panels = .ok document
        ∧ mount (some {}) { document, options := { now := 0 } } = .ok first
        ∧ (first.run [.invoke "open"]).1 = last
        ∧ last.session.openPopup = some "Panel"
        ∧ (last.invoke "actions.closePopup").1.session.openPopup = some "Panel"
        ∧ (last.invoke "actions.closePopup").2 = [.popupOpened "Panel"] := by
  obtain ⟨document, first, hload, hmount, hdeclared, hopen⟩ :
      ∃ (document : Document) (first : Preview),
        Document.ofJson? Json.panels = .ok document
          ∧ mount (some {}) { document, options := { now := 0 } } = .ok first
          ∧ document.actions.get? "closePopup" = some (.popup "Panel")
          ∧ (first.run [.invoke "open"]).1.session.openPopup = some "Panel" :=
    ⟨_, _, rfl, rfl, by decide +kernel, by decide +kernel⟩
  generalize hlast : (first.run [.invoke "open"]).1 = last at hopen
  obtain ⟨hsame, hlive, -⟩ := declared_run hmount hlast not_namespaced_closePopup hdeclared
  obtain ⟨hsession, hevents⟩ := hlive (hlast ▸ live_run_of_mount hmount (by simp))
  have hsame : last.invoke "actions.closePopup" = last.invoke "closePopup" := hsame
  refine ⟨document, first, last, hload, hmount, hlast, hopen, ?_, ?_⟩
  · rw [hsame, hsession]
    rfl
  · rw [hsame, hevents]
    rfl

/-- An action with the namespace in its name is unknown, and a torn-down preview opens no popup. -/
theorem declared_run_panels_ne :
    ∃ (document : Document) (first : Preview),
      Document.ofJson? Json.panels = .ok document
        ∧ mount (some {}) { document, options := { now := 0 } } = .ok first
        ∧ document.actions.get? "actions.save" = some (.popup "Panel")
        ∧ (first.invoke "actions.save").2 = [.unknownAction "save"]
        ∧ (first.invoke "actions.save").1.session.openPopup = none
        ∧ document.actions.get? "open" = some (.popup "Panel")
        ∧ (first.run [.teardown, .invoke "open"]).2 = []
        ∧ (first.run [.teardown, .invoke "open"]).1.session.openPopup = none :=
  ⟨_, _, rfl, rfl, by decide +kernel, rfl, by decide +kernel, by decide +kernel, rfl,
    by decide +kernel⟩

end Preview

end Wireframe
