import Wireframe.Proofs.Degradations
import Wireframe.Proofs.EventSources

/-!
# What a clean inspection promises

If the inspection of a document finds nothing, then nothing is missing when it is used, but for two
things that the inspection does not look at: the action that a prop of a button names, and the popup that
a declared action opens. So an unknown action comes from a click on such a button, and a mark of
something missing stands for such a popup (`Preview.clean_run`).
-/

namespace Wireframe

/-- Whether an action is declared, or needs no declaration. -/
def Stage.Knows (stage : Stage) (action : String) : Prop :=
  (stage.document.action? (actionName action)).isSome
    ∨ (BuiltinAction.ofName? (actionName action)).isSome

/-- Whether an action has a name and is not known. -/
structure Stage.Lacks (stage : Stage) (action name : String) : Prop where
  name_eq : name = actionName action
  unknown : ¬ stage.Knows action

/-! ### Events of operations -/

namespace Preview

variable {preview : Preview} {name : String}

/-- An operation tells of an unknown action if it is to run it, or activates a node that does. -/
lemma unknown_apply {operation : Operation}
    (hevent : .unknownAction name ∈ (preview.apply operation).2) :
    ∃ action, preview.stage.Lacks action name
      ∧ (operation = .invoke action ∨ ∃ nodeId interaction, operation = .activate nodeId
        ∧ preview.interaction? nodeId = some interaction ∧ interaction.action? = some action) := by
  have hlacks : ∀ {action}, preview.stage.document.action? (actionName action) = none →
      BuiltinAction.ofName? (actionName action) = none →
        preview.stage.Lacks action (actionName action) := fun undeclared notBuiltin =>
    ⟨rfl, by simp [Stage.Knows, undeclared, notBuiltin]⟩
  cases source_apply hevent with
  | plain h => cases h
  | @invoked action _ h =>
    cases h with
    | plain h => cases h
    | unknown haction undeclared notBuiltin =>
      cases haction
      exact ⟨action, hlacks undeclared notBuiltin, .inl rfl⟩
  | @activated nodeId interaction _ hinteraction h =>
    cases h with
    | plain h => cases h
    | @unknown action haction undeclared notBuiltin =>
      exact ⟨action, hlacks undeclared notBuiltin,
        .inr ⟨nodeId, interaction, rfl, hinteraction, haction⟩⟩

/-- An event of a run is one of an operation of it. -/
lemma mem_events_run {event : Event} {operations : List Operation}
    (h : event ∈ (preview.run operations).2) :
    ∃ before operation after, operations = before ++ operation :: after
      ∧ event ∈ ((preview.run before).1.apply operation).2 := by
  induction operations generalizing preview with
  | nil => cases h
  | cons operation operations ih =>
    rw [run_cons] at h
    rcases List.mem_append.mp h with h | h
    · exact ⟨[], operation, operations, rfl, h⟩
    · obtain ⟨before, later, after, rfl, hevent⟩ := ih h
      exact ⟨operation :: before, later, after, rfl, hevent⟩

end Preview

/-! ### Actions of components -/

/-- Whether a click on a component runs an action that one of its props names: it is a button, and none
of its interactions is a click. -/
structure Component.RunsByProp (component : Component) (action : String) : Prop where
  button : component.type.form = .button ∨ component.type.form = .fab
  quiet : component.interaction? Site.clickEvents = none
  named : ((component.view.extra.get? "command").or (component.view.extra.get? "action")).bind
    PropValue.literal? = some action

/-- Whether a component may run an action. -/
def Component.Runs (component : Component) (action : String) : Prop :=
  (∃ event, (event, action) ∈ component.interactions) ∨ component.RunsByProp action

lemma Component.mem_of_interaction? {component : Component} {events : List String} {action : String}
    (h : component.interaction? events = some action) :
    ∃ event, (event, action) ∈ component.interactions := by
  obtain ⟨event, -, hevent⟩ := List.exists_of_findSome?_eq_some h
  exact ⟨event, Entries.mem_of_get? hevent⟩

namespace Site

variable {site : Site} {draw : Draw} {interaction : Interaction} {action : String}

lemma runs_click (hform : site.component.type.form = .button ∨ site.component.type.form = .fab)
    (h : site.click? = some interaction) (haction : interaction.action? = some action) :
    site.component.Runs action := by
  obtain ⟨clicked, hclicked, rfl⟩ := Option.map_eq_some_iff.mp h
  cases haction
  rcases Option.or_eq_some_iff.mp hclicked with hevent | ⟨hquiet, hnamed⟩
  · exact .inl (Component.mem_of_interaction? hevent)
  · exact .inr ⟨hform, hquiet, hnamed⟩

/-- The node of a component runs actions of the component. -/
lemma runs_node (h : (site.node draw).interaction = some interaction)
    (haction : interaction.action? = some action) : site.component.Runs action := by
  simp only [node, body] at h
  cases hform : site.component.type.form with
  | button => rw [hform] at h; exact runs_click (.inl hform) h haction
  | fab => rw [hform] at h; exact runs_click (.inr hform) h haction
  | toggle =>
    rw [hform] at h
    cases h
    exact .inl (Component.mem_of_interaction? haction)
  | picker =>
    rw [hform] at h
    simp only [picker, Node.picker, Node.withAttributes] at h
    split at h
    · cases h
    · cases h
      cases haction
  | generic =>
    rw [hform] at h
    simp only [other] at h
    split at h <;> cases h
  | textInput => rw [hform] at h; cases h; cases haction
  | radio => rw [hform] at h; cases h; cases haction
  | _ => rw [hform] at h; cases h

end Site

namespace Stage

variable {stage : Stage} {session : Session} {start : Child → Prop} {component : Component}

/-! ### Clean inspections -/

/-- What the interactions of a component run is known, if the inspection finds nothing. -/
lemma Inspected.knows (h : stage.Inspected (.inline component)) (hclean : stage.inspect = [])
    {event action : String} (hmem : (event, action) ∈ component.interactions) :
    stage.Knows action := by
  by_contra hunknown
  obtain ⟨location, hinspect⟩ := h
  rw [inspectChild, inspectComponent_eq, List.append_assoc, List.append_assoc] at hinspect
  have hreports : stage.Reports (Finding.undeclaredAction action).message := by
    refine Reports.of_mem (.undeclaredAction action) ?_
      (List.Subset.trans (List.subset_append_left _ _) hinspect)
    refine List.mem_append_right _ (List.mem_filterMap.mpr ⟨_, hmem, ?_⟩)
    simpa [Knows, not_or] using hunknown
  obtain ⟨diagnostic, hdiagnostic, -⟩ := hreports
  rw [hclean] at hdiagnostic
  cases hdiagnostic

/-- What is reached is inspected where it is written; a reference does not override interactions. -/
lemma Reached.knows (h : stage.Reached start (.inline component))
    (hstart : ∀ child, start child → stage.Inspected child) (hclean : stage.inspect = [])
    {event action : String} (hmem : (event, action) ∈ component.interactions) :
    stage.Knows action := by
  cases h with
  | start h => exact (hstart _ h).knows hclean hmem
  | inner h hchild =>
    exact ((h.covered fun child h => (hstart child h).covered).2 _ hchild).knows hclean hmem
  | followed _ hfound => exact (inspected_of_component? hfound).knows hclean hmem

/-- An unknown action on a screen is named by a prop of a button. -/
lemma OnScreen.runsByProp {n : Node} (h : stage.OnScreen session n) (hclean : stage.inspect = [])
    {interaction : Interaction} (hinteraction : n.interaction = some interaction) {action : String}
    (haction : interaction.action? = some action) (hunknown : ¬ stage.Knows action) :
    ∃ component, stage.Reached (stage.Shown session) (.inline component)
      ∧ component.RunsByProp action := by
  cases h with
  | screen => cases hinteraction
  | page =>
    simp only [Stage.page] at hinteraction
    split at hinteraction <;> cases hinteraction
  | tabBar => cases hinteraction
  | tab h =>
    obtain ⟨tab, -, rfl⟩ := List.mem_map.mp h
    cases hinteraction
    cases haction
  | popup hopen =>
    simp only [Stage.popup] at hinteraction
    split at hinteraction
    · cases hinteraction
      cases haction
    · cases hinteraction
  | closeButton => cases hinteraction; cases haction
  | snackbar h =>
    obtain ⟨⟨id, component⟩, -, rfl⟩ := Option.map_eq_some_iff.mp h
    cases hinteraction
  | snackbarButton h hnode =>
    obtain ⟨⟨id, component⟩, hfound, rfl⟩ := Option.map_eq_some_iff.mp h
    have hinspected : stage.Inspected (.inline component) :=
      inspected_of_mem (List.mem_append_left _ (List.mem_of_find?_eq_some hfound))
    rcases List.mem_append.mp hnode with hnode | hdismiss
    · obtain ⟨caption, -, rfl⟩ := List.mem_map.mp hnode
      cases hinteraction
      obtain ⟨event, hmem⟩ := Component.mem_of_interaction? haction
      exact absurd (hinspected.knows hclean hmem) hunknown
    · rw [List.mem_singleton.mp hdismiss] at hinteraction
      cases hinteraction
      cases haction
  | drawn h =>
    cases h with
    | @component site draw h =>
      rcases Site.runs_node hinteraction haction with ⟨event, hmem⟩ | hprop
      · exact absurd (h.knows (fun _ => Shown.inspected) hclean hmem) hunknown
      · exact ⟨_, h, hprop⟩
    | notFound id h hmissing => cases hinteraction
    | tooDeep id name => cases hinteraction
    | frame h => rw [h.1] at hinteraction; cases hinteraction
    | label id text => cases hinteraction

end Stage

/-! ### Open popups -/

/-- Whether the open popup is one that a declared action opens. -/
def Session.PopupDeclared (document : Document) (session : Session) : Prop :=
  ∀ popup, session.openPopup = some popup → ∃ name, document.action? name = some (.popup popup)

namespace Session

variable {document : Document} {first last : Session} {event : Event} {events : List Event}

lemma Step.popupDeclared (h : Step document first event last)
    (hfirst : first.PopupDeclared document) : last.PopupDeclared document := by
  cases h with
  | selectTab inactive declared => exact hfirst
  | @openPopup name popup declared =>
    intro other hopen
    cases hopen
    exact ⟨name, declared⟩
  | closePopup isOpen => exact nofun
  | showSnackbar declared => exact hfirst
  | hideSnackbar visible => exact hfirst
  | command declared => exact hfirst
  | @write target value fresh =>
    cases target with
    | state path => exact hfirst
    | «local» id => exact hfirst
  | unknownAction undeclared notBuiltin => exact hfirst

lemma Log.popupDeclared (h : Log document first events last)
    (hfirst : first.PopupDeclared document) : last.PopupDeclared document := by
  induction h with
  | nil => exact hfirst
  | cons step _ ih => exact ih (step.popupDeclared hfirst)

end Session

/-- A document that the inspection finds nothing in, with a button whose prop names no action and an
action that opens no popup. -/
def Json.launcher : Json :=
  .object
    [("pages", .object
        [("Home", .object
            [("layout", .object
              [("type", .string "VerticalStack"),
                ("children", .array
                  [.object
                      [("type", .string "Button"), ("text", .string "Go"),
                        ("command", .string "launch")],
                    .object
                      [("type", .string "Button"), ("text", .string "Open"),
                        ("interactions", .object [("Clicked", .string "open")])]])])])]),
      ("actions", .object
        [("open", .object [("type", .string "popup"), ("target", .string "Panel")])])]

namespace Preview

variable {stage : Stage} {canvas : Canvas} {first : Preview}

lemma popupDeclared_run (h : mount (some canvas) stage = .ok first) (operations : List Operation) :
    (first.run operations).1.session.PopupDeclared stage.document :=
  (log_run_of_mount h operations).popupDeclared fun _ hopen => by cases hopen

/-- An unknown action that is not asked for is told of when a node is activated whose component names it
in a prop. -/
lemma unknown_run (hclean : stage.inspect = []) (h : mount (some canvas) stage = .ok first)
    {operations : List Operation} (hinvoked : ∀ action, .invoke action ∈ operations → stage.Knows action)
    {name : String} (hevent : .unknownAction name ∈ (first.run operations).2) :
    ∃ before nodeId after component action, operations = before ++ .activate nodeId :: after
      ∧ stage.Reached (stage.Shown (first.run before).1.session) (.inline component)
      ∧ component.RunsByProp action ∧ stage.Lacks action name := by
  obtain ⟨before, operation, after, rfl, hevent'⟩ := mem_events_run hevent
  have hstage : (first.run before).1.stage = stage := stage_run_of_mount h before
  obtain ⟨action, hlacks, rfl | ⟨nodeId, interaction, rfl, hinteraction, haction⟩⟩ :=
    unknown_apply hevent'
  · rw [hstage] at hlacks
    exact absurd (hinvoked action (by simp)) hlacks.unknown
  · rw [hstage] at hlacks
    obtain ⟨n, hfind, hn⟩ := Option.bind_eq_some_iff.mp hinteraction
    have honScreen :=
      Stage.onScreen_of_mem (screen_run_of_mount h before ▸ Node.mem_of_find? hfind)
    obtain ⟨component, hreached, hprop⟩ :=
      honScreen.runsByProp hclean hn haction hlacks.unknown
    exact ⟨before, nodeId, after, component, action, rfl, hreached, hprop, hlacks⟩

/-- If the inspection finds nothing and only known actions are asked for, then in any run an unknown
action comes from activating a button whose prop names it, and what is missing from the screen is a
popup that a declared action opens. -/
theorem clean_run (hclean : stage.inspect = []) (h : mount (some canvas) stage = .ok first)
    {operations : List Operation}
    (hinvoked : ∀ action, .invoke action ∈ operations → stage.Knows action) :
    (∀ name, .unknownAction name ∈ (first.run operations).2 →
        ∃ before nodeId after component action, operations = before ++ .activate nodeId :: after
          ∧ stage.Reached (stage.Shown (first.run before).1.session) (.inline component)
          ∧ component.RunsByProp action ∧ stage.Lacks action name)
      ∧ ∀ n ∈ (first.run operations).1.screen.preorder, ∀ reference,
        n.widget = .missing reference .notFound →
          n = Node.missing (screenId ++ "/popup") reference .notFound
            ∧ stage.document.component? reference = none
            ∧ ∃ name, stage.document.action? name = some (.popup reference) := by
  refine ⟨fun name => unknown_run hclean h hinvoked, fun n hn reference hwidget => ?_⟩
  rcases explained_of_run h operations n hn with ⟨popupId, hopen, hmissing, rfl⟩ | hexplains
  · cases hwidget
    exact ⟨rfl, hmissing, popupDeclared_run h operations _ hopen⟩
  · obtain ⟨diagnostic, hdiagnostic, -⟩ := hexplains.missing reference hwidget
    rw [hclean] at hdiagnostic
    cases hdiagnostic

theorem clean_run_launcher :
    ∃ document first operations,
      Document.ofJson? Json.launcher = .ok document
        ∧ Stage.inspect { document, options := { now := 0 } } = []
        ∧ mount (some {}) { document, options := { now := 0 } } = .ok first
        ∧ operations = [.invoke "open", .activate "screen/page/0/0"]
        ∧ (∀ name, .unknownAction name ∈ (first.run operations).2 →
          ∃ before nodeId after component action, operations = before ++ .activate nodeId :: after
            ∧ first.stage.Reached (first.stage.Shown (first.run before).1.session) (.inline component)
            ∧ component.RunsByProp action ∧ first.stage.Lacks action name)
        ∧ ∀ n ∈ (first.run operations).1.screen.preorder, ∀ reference,
          n.widget = .missing reference .notFound →
            n = Node.missing (screenId ++ "/popup") reference .notFound
              ∧ document.component? reference = none
              ∧ ∃ name, document.action? name = some (.popup reference) := by
  refine ⟨_, _, _, rfl, by decide +kernel, rfl, rfl, clean_run (by decide +kernel) rfl ?_⟩
  intro action haction
  have hopen : action = "open" := by simpa using haction
  subst hopen
  exact .inl (by decide +kernel)

/-- Nothing is found in the document, and yet the one button runs an unknown action and the other opens a
popup that is missing. -/
theorem launcher_run_unknown :
    ∃ document first n,
      Document.ofJson? Json.launcher = .ok document
        ∧ Stage.inspect { document, options := { now := 0 } } = []
        ∧ mount (some {}) { document, options := { now := 0 } } = .ok first
        ∧ (first.run [.activate "screen/page/0/0"]).2 = [.unknownAction "launch"]
        ∧ (first.run [.activate "screen/page/0/1"]).2 = [.popupOpened "Panel"]
        ∧ n ∈ (first.run [.activate "screen/page/0/1"]).1.screen.preorder
        ∧ n.widget = .missing "Panel" .notFound := by
  obtain ⟨document, first, hload, hclean, hmount, hunknown, hopened, hn⟩ : ∃ document first,
      Document.ofJson? Json.launcher = .ok document
        ∧ Stage.inspect { document, options := { now := 0 } } = []
        ∧ mount (some {}) { document, options := { now := 0 } } = .ok first
        ∧ (first.run [.activate "screen/page/0/0"]).2 = [.unknownAction "launch"]
        ∧ (first.run [.activate "screen/page/0/1"]).2 = [.popupOpened "Panel"]
        ∧ ((first.run [.activate "screen/page/0/1"]).1.screen.find? "screen/popup").map Node.widget
          = some (.missing "Panel" .notFound) :=
    ⟨_, _, rfl, by decide +kernel, rfl, rfl, rfl, rfl⟩
  obtain ⟨n, hfind, hwidget⟩ := Option.map_eq_some_iff.mp hn
  exact ⟨document, first, n, hload, hclean, hmount, hunknown, hopened, Node.mem_of_find? hfind,
    hwidget⟩

end Preview

end Wireframe
