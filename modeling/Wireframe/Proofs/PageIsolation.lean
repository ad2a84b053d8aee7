import Wireframe.Proofs.CurrentScreen
import Wireframe.Proofs.LocalValues
import Wireframe.Proofs.NodeIds

/-!
# Local values and other pages

A value that is kept for a node is kept under the id of the node, and ids are counted anew on every
page. Using a control that keeps its value so may therefore be seen on another page, by the control
that has the same id there; and a toggle's action may write the snackbar's flag, which any page may
show. Nothing else of another page depends on it (`Preview.page_run_of_uses`).
-/

namespace Wireframe

/-- The operations that use a control. -/
inductive Operation.Uses (nodeId : String) : Operation → Prop where
  | activate : Uses nodeId (.activate nodeId)
  | changeText (text : String) : Uses nodeId (.changeText nodeId text)

lemma Operation.Uses.ne_teardown {nodeId : String} {operation : Operation}
    (h : operation.Uses nodeId) : operation ≠ .teardown := by
  cases h <;> simp

/-- What an operation on a control does beside writing its value: activating a toggle may run an
action. -/
def Interaction.followUps : Interaction → Operation → List Operation
  | toggle _ _ (some action), .activate _ => [.invoke action]
  | _, _ => []

/-! ### Changes -/

def Activity.withLocals (locals : Entries Json) (activity : Activity) : Activity :=
  { activity with session := { activity.session with locals } }

/-- Whether a change has nothing to do with local values, nor with the active tab. -/
structure Change.Detached (change : Change) : Prop where
  withLocals : ∀ locals activity, change (activity.withLocals locals)
    = ((change activity).1.withLocals locals, (change activity).2)
  activeTab : ∀ activity, (change activity).1.session.activeTab = activity.session.activeTab

namespace Change

lemma Detached.locals {change : Change} (h : change.Detached) (activity : Activity) :
    (change activity).1.session.locals = activity.session.locals := by
  have hsame := h.withLocals activity.session.locals activity
  exact congrArg (fun next : Activity × List Event => next.1.session.locals) hsame

lemma session_ofSession? (next : Session → Option Session) (event : Event) (activity : Activity) :
    (ofSession? next event activity).1.session = (next activity.session).getD activity.session := by
  simp only [ofSession?]
  cases next activity.session with
  | none => rfl
  | some session => rfl

lemma detached_nothing : Detached nothing := ⟨fun _ _ => rfl, fun _ => rfl⟩

lemma detached_ofSession? {next : Session → Option Session} {event : Event}
    (hlocals : ∀ locals session, next { session with locals }
      = (next session).map fun session => { session with locals })
    (htab : ∀ session, (next session).all (·.activeTab = session.activeTab)) :
    Detached (ofSession? next event) := by
  refine ⟨fun locals activity => ?_, fun activity => ?_⟩
  · simp only [ofSession?, Activity.withLocals]
    rw [hlocals]
    cases next activity.session with
    | none => rfl
    | some session => rfl
  · rw [session_ofSession?]
    have hkept := htab activity.session
    cases hnext : next activity.session with
    | none => rfl
    | some session =>
      rw [hnext] at hkept
      simpa using hkept

lemma detached_closePopup : Detached closePopup := by
  refine detached_ofSession? (fun locals session => ?_) fun session => ?_
  · simp only [Session.closePopup?]
    split <;> rfl
  · simp only [Session.closePopup?]
    split <;> simp

lemma detached_openPopup (popup : String) : Detached (openPopup popup) :=
  detached_ofSession? (fun _ _ => rfl) fun session => by simp [Session.withPopup]

lemma detached_dismissSnackbar : Detached dismissSnackbar := by
  have hhide : Detached hideSnackbar := by
    refine detached_ofSession? (fun locals session => ?_) fun session => ?_
    · dsimp only
      split <;> rfl
    · split <;> simp [Session.setSnackbar]
  have hcancel : ∀ locals activity, cancelTimer (Activity.withLocals locals activity)
      = (cancelTimer activity).withLocals locals := by
    intro locals activity
    simp only [cancelTimer, Activity.withLocals]
    split <;> rfl
  refine ⟨fun locals activity => ?_, fun activity => ?_⟩
  · simp only [dismissSnackbar]
    rw [hcancel]
    exact hhide.withLocals locals _
  · rw [dismissSnackbar, hhide.activeTab, session_cancelTimer]

end Change

namespace Stage

variable (stage : Stage)

lemma detached_showSnackbar : stage.showSnackbar.Detached := by
  have hstart : ∀ locals activity, stage.startTimer (Activity.withLocals locals activity)
      = (stage.startTimer activity).withLocals locals := by
    intro locals activity
    simp only [startTimer, Change.cancelTimer, Activity.withLocals]
    split
    · split <;> rfl
    · split <;> rfl
  refine ⟨fun locals activity => ?_, fun activity => ?_⟩
  · simp only [showSnackbar]
    split
    · exact congrArg (·, [Event.snackbarShown])
        (hstart locals { activity with session := activity.session.setSnackbar true })
    · rfl
  · simp only [showSnackbar]
    split
    · rw [session_startTimer]
      rfl
    · rfl

/-- No action selects a tab, or reads or writes a local value. -/
lemma detached_run (action : String) : (stage.run action).Detached := by
  simp only [run]
  split
  · exact Change.detached_openPopup _
  · exact ⟨fun _ _ => rfl, fun _ => rfl⟩
  · exact Change.detached_nothing
  · split
    · next builtin _ =>
      cases builtin with
      | closePopup => exact Change.detached_closePopup
      | dismissSnackbar => exact Change.detached_dismissSnackbar
      | showSnackbar => exact stage.detached_showSnackbar
    · exact ⟨fun _ _ => rfl, fun _ => rfl⟩

end Stage

/-! ### Operations -/

/-- Whether local values differ at most by one that was written under a key. -/
def Written (key : String) (before after : Entries Json) : Prop :=
  after = before ∨ ∃ value, after = before.insert key value

lemma Written.get?_of_ne {key id : String} {before after : Entries Json}
    (h : Written key before after) (hid : id ≠ key) : after.get? id = before.get? id := by
  rcases h with rfl | ⟨value, rfl⟩
  · rfl
  · exact Entries.get?_insert_of_ne _ _ hid.symm

lemma Written.eq_of_none {key : String} {before after : Entries Json}
    (h : Written key before after) (hnone : after.get? key = none) : after = before := by
  rcases h with rfl | ⟨value, rfl⟩
  · rfl
  · rw [Entries.get?_insert_self] at hnone
    cases hnone

lemma Change.write_local (key : String) (value : Json) (activity : Activity) :
    ∃ locals, Written key activity.session.locals locals
      ∧ (write (.local key) value activity).1 = activity.withLocals locals := by
  simp only [write, ofSession?]
  by_cases hsame : (activity.session.value? (.local key) == some value) = true
  · exact ⟨activity.session.locals, .inl rfl, by simp only [hsame, if_true]; rfl⟩
  · exact ⟨activity.session.locals.insert key value, .inr ⟨value, rfl⟩, by
      simp only [if_neg hsame]; rfl⟩

/-- A value that is written, if there is one. -/
lemma Change.write_local? (key : String) (value : Option Json) (activity : Activity) :
    ∃ locals, Written key activity.session.locals locals
      ∧ ((value.map (write (.local key))).getD nothing activity).1
        = activity.withLocals locals := by
  cases value with
  | none => exact ⟨activity.session.locals, .inl rfl, rfl⟩
  | some value => exact write_local key value activity

namespace Preview

variable {preview : Preview} {key nodeId : String} {interaction : Interaction}
  {operation : Operation}

/-- Making a change that only writes a local value. -/
lemma session_perform_withLocals {change : Change} (preview : Preview)
    (h : ∃ locals, Written key preview.session.locals locals
      ∧ (change preview.activity).1 = preview.activity.withLocals locals) :
    ∃ locals, Written key preview.session.locals locals
      ∧ (preview.perform change).1.session = { preview.session with locals } := by
  rw [session_perform]
  split
  · exact ⟨preview.session.locals, .inl rfl, rfl⟩
  · obtain ⟨locals, hwritten, hchange⟩ := h
    exact ⟨locals, hwritten, by rw [hchange]; rfl⟩

/-- Beside what it runs, using a control only writes a local value. -/
lemma session_apply_of_uses (hinteraction : preview.interaction? nodeId = some interaction)
    (hkey : interaction.target? = some (.local key)) (huse : operation.Uses nodeId) :
    ∃ locals, Written key preview.session.locals locals
      ∧ (preview.apply operation).1.session
        = { (preview.run (interaction.followUps operation)).1.session with locals } := by
  have hnothing : ∃ locals, Written key preview.session.locals locals
      ∧ preview.session = { preview.session with locals } :=
    ⟨preview.session.locals, .inl rfl, rfl⟩
  cases huse with
  | activate =>
    simp only [apply, activate, hinteraction]
    cases interaction with
    | cyclePicker target options current =>
      cases hkey
      exact session_perform_withLocals preview (Change.write_local? key _ _)
    | toggle target current followUp =>
      cases hkey
      cases followUp with
      | none => exact session_perform_withLocals preview (Change.write_local key _ _)
      | some action =>
        simp only [Interaction.followUps, run_cons, run_nil, apply, invoke, Stage.change?,
          session_perform]
        split
        · exact hnothing
        · obtain ⟨locals, hwritten, hwrite⟩ :=
            Change.write_local key (.bool !current) preview.activity
          refine ⟨locals, hwritten, ?_⟩
          simp only [Change.andThen, hwrite, Option.map_some, Option.getD_some,
            (preview.stage.detached_run action).withLocals]
          rfl
    | selectRadio target value =>
      cases hkey
      exact session_perform_withLocals preview (Change.write_local key value _)
    | editText target => exact hnothing
    | _ => cases hkey
  | changeText text =>
    have hfollowUps : interaction.followUps (.changeText nodeId text) = [] := by
      unfold Interaction.followUps
      split
      · next hoperation => cases hoperation
      · rfl
    rw [hfollowUps]
    simp only [apply, changeText, hinteraction]
    split
    · next target hedit =>
      cases hedit
      cases hkey
      exact session_perform_withLocals preview (Change.write_local key (.string text) _)
    · exact hnothing

lemma teardown_notMem_followUps (interaction : Interaction) (operation : Operation) :
    .teardown ∉ interaction.followUps operation := by
  simp only [Interaction.followUps]
  split <;> simp

/-- What a toggle runs leaves the active tab and the local values alone. -/
lemma session_followUps (preview : Preview) (interaction : Interaction) (operation : Operation) :
    (preview.run (interaction.followUps operation)).1.session.activeTab = preview.session.activeTab
      ∧ (preview.run (interaction.followUps operation)).1.session.locals
        = preview.session.locals := by
  simp only [Interaction.followUps]
  split
  · next action _ =>
    have hdetached := preview.stage.detached_run action
    simp only [run_cons, run_nil, apply, invoke, session_perform]
    split
    · exact ⟨rfl, rfl⟩
    · exact ⟨hdetached.activeTab preview.activity, hdetached.locals preview.activity⟩
  · exact ⟨rfl, rfl⟩

/-! ### Selecting a tab -/

lemma session_selectTab (preview : Preview) (tab : String) :
    (preview.apply (.selectTab tab)).1.session
      = if preview.tornDown then preview.session
        else (preview.session.selectTab? preview.stage.document tab).getD preview.session := by
  simp only [apply, selectTab, session_performQuietly, Stage.selectTab, Change.session_ofSession?]
  rfl

lemma session_selectTab_withLocals {other : Preview} {locals : Entries Json}
    (hstage : other.stage = preview.stage) (htorn : other.tornDown = preview.tornDown)
    (h : other.session = { preview.session with locals }) (tab : String) :
    (other.apply (.selectTab tab)).1.session
      = { (preview.apply (.selectTab tab)).1.session with locals } := by
  rw [session_selectTab, session_selectTab, hstage, htorn, h]
  split
  · rfl
  · simp only [Session.selectTab?]
    split <;> rfl

lemma locals_selectTab (preview : Preview) (tab : String) :
    (preview.apply (.selectTab tab)).1.session.locals = preview.session.locals := by
  rw [session_selectTab]
  split
  · rfl
  · simp only [Session.selectTab?]
    split <;> rfl

lemma page_selectTab_congr {other : Preview} (hstage : other.stage = preview.stage)
    (htorn : other.tornDown = preview.tornDown)
    (hactiveTab : other.session.activeTab = preview.session.activeTab)
    (hvalues : other.session.values = preview.session.values)
    (hlocals : other.session.locals = preview.session.locals) (stage : Stage) (tab : String) :
    stage.page (other.apply (.selectTab tab)).1.session
      = stage.page (preview.apply (.selectTab tab)).1.session := by
  rw [session_selectTab, session_selectTab, hstage, htorn]
  split
  · exact Stage.page_congr hactiveTab hvalues hlocals
  · simp only [Session.selectTab?, hactiveTab]
    split
    · exact Stage.page_congr hactiveTab hvalues hlocals
    · exact Stage.page_congr rfl hvalues hlocals

end Preview

lemma Stage.find?_page (stage : Stage) (session : Session) :
    (stage.screen session).find? (screenId ++ "/page") = some (stage.page session) := by
  have hid : (stage.page session).id = screenId ++ "/page" := (stage.named_page session).root
  rw [← hid]
  have hroot : screenId ≠ (stage.page session).id := by
    rw [hid]
    decide
  simp only [screen, Node.find?, hroot, if_false, List.cons_append, Node.findAmong?,
    Node.find?_self, Option.some_or]

/-- What a written value does to a page. -/
lemma Stage.page_withLocals (stage : Stage) {session : Session} {key : String}
    {locals : Entries Json} (h : Written key session.locals locals) :
    (stage.page session).MatchesBut key (stage.page { session with locals })
      ∧ (stage.page { session with locals } = stage.page session ↔
        ∀ value ∈ locals.get? key,
          ∀ n ∈ (stage.page session).preorder, n.target? = some (.local key) → n.Shows value) := by
  have hagrees : session.AgreesBut key { session with locals } :=
    ⟨rfl, rfl, fun id hid => h.get?_of_ne hid⟩
  refine ⟨matches_page hagrees, ?_⟩
  cases hkept : locals.get? key with
  | none =>
    rw [h.eq_of_none hkept]
    simp
  | some value =>
    rw [page_eq_iff hagrees hkept]
    simp

/-- Two pages with a field at the same place. On the first one a toggle shows the snackbar, on the
second one a label shows the snackbar's flag. -/
def Json.drafts : Json :=
  .object
    [("tabs", .object
        [("Notes", .object [("page", .string "NotesPage")]),
          ("Places", .object [("page", .string "PlacesPage")])]),
      ("pages", .object
        [("NotesPage", .object
            [("layout", .object
              [("type", .string "VerticalStack"),
                ("children", .array
                  [.object [("type", .string "Entry"), ("label", .string "Note")],
                    .object
                      [("type", .string "CheckBox"), ("label", .string "Done"),
                        ("interactions", .object [("Toggled", .string "showSnackbar")])]])])]),
          ("PlacesPage", .object
            [("layout", .object
              [("type", .string "VerticalStack"),
                ("children", .array
                  [.object [("type", .string "Entry"), ("label", .string "Place")],
                    .object [("type", .string "Label"), ("text", .string "@state.saved")]])])])]),
      ("components", .object
        [("Saved", .object
            [("type", .string "Snackbar"), ("message", .string "Saved"),
              ("isVisible", .string "@state.saved")])]),
      ("state", .object [("saved", .bool false)])]

/-- The text that a field or a label shows. -/
def Node.text? (node : Node) : Option String :=
  match node.widget with
  | .textField _ _ text _ _ _ _ => some text
  | .text text _ _ => some text
  | _ => none

namespace Preview

/-- Using a control that keeps its value for a node, and then going to a tab, leads to the page that
going there leads to without it, but for two things. Controls of that page that write under the same
key may show the value that is kept; the pages are the same if they show it anyway. And a toggle may
run an action, which counts by what it does to the state. -/
theorem page_run_of_uses {canvas : Canvas} {stage : Stage} {first : Preview}
    (h : mount (some canvas) stage = .ok first) (operations : List Operation)
    {nodeId key : String} {interaction : Interaction} {operation : Operation}
    (hinteraction : (first.run operations).1.interaction? nodeId = some interaction)
    (hkey : interaction.target? = some (.local key)) (huse : operation.Uses nodeId) (tab : String) :
    ∃ page page',
      (first.run (operations ++ interaction.followUps operation ++ [.selectTab tab])).1.screen.find?
          (screenId ++ "/page") = some page
        ∧ (first.run (operations ++ [operation] ++ [.selectTab tab])).1.screen.find?
          (screenId ++ "/page") = some page'
        ∧ page.MatchesBut key page'
        ∧ ((∀ value ∈ (first.run (operations ++ [operation])).1.session.locals.get? key,
            ∀ n ∈ page.preorder, n.target? = some (.local key) → n.Shows value) → page' = page)
        ∧ ((first.run (operations ++ interaction.followUps operation)).1.session.values
            = (first.run operations).1.session.values →
          (first.run (operations ++ [.selectTab tab])).1.screen.find? (screenId ++ "/page")
            = some page) := by
  have hscreen : ∀ more, (first.run more).1.screen.find? (screenId ++ "/page")
      = some (stage.page (first.run more).1.session) := by
    intro more
    rw [screen_run_of_mount h, Stage.find?_page]
  refine ⟨_, _, hscreen _, hscreen _, ?_⟩
  rw [hscreen, Option.some_inj]
  simp only [run_append, run_cons, run_nil]
  set preview := (first.run operations).1
  set ran := (preview.run (interaction.followUps operation)).1
  set used := (preview.apply operation).1
  have hranStage : ran.stage = preview.stage := preview.stage_run _
  have hranTorn : ran.tornDown = preview.tornDown :=
    tornDown_run (teardown_notMem_followUps interaction operation)
  have husedTorn : used.tornDown = preview.tornDown := tornDown_apply huse.ne_teardown
  obtain ⟨hactiveTab, hlocals⟩ := preview.session_followUps interaction operation
  obtain ⟨locals, hwritten, hsession⟩ := session_apply_of_uses hinteraction hkey huse
  have hselected := session_selectTab_withLocals
    ((preview.stage_apply operation).trans hranStage.symm) (husedTorn.trans hranTorn.symm)
    hsession tab
  have hkept : (ran.apply (.selectTab tab)).1.session.locals = preview.session.locals :=
    (locals_selectTab ran tab).trans hlocals
  obtain ⟨hmatches, hiff⟩ := stage.page_withLocals (hkept ▸ hwritten)
  have husedLocals : used.session.locals = locals := by rw [hsession]
  rw [hselected, husedLocals]
  refine ⟨hmatches, hiff.mpr, fun hvalues => ?_⟩
  exact (page_selectTab_congr hranStage hranTorn hactiveTab hvalues hlocals stage tab).symm

theorem page_run_of_uses_drafts :
    ∃ document first interaction page page',
      Document.ofJson? Json.drafts = .ok document
        ∧ mount (some {}) { document, options := { now := 0 } } = .ok first
        ∧ (first.run []).1.interaction? "screen/page/0/1" = some interaction
        ∧ interaction.target? = some (.local "screen/page/0/1")
        ∧ (Operation.activate "screen/page/0/1").Uses "screen/page/0/1"
        ∧ (first.run ([] ++ interaction.followUps (.activate "screen/page/0/1")
            ++ [.selectTab "Places"])).1.screen.find? (screenId ++ "/page") = some page
        ∧ (first.run ([] ++ [.activate "screen/page/0/1"]
            ++ [.selectTab "Places"])).1.screen.find? (screenId ++ "/page") = some page'
        ∧ page.MatchesBut "screen/page/0/1" page' := by
  obtain ⟨document, first, hload, hmount, htarget⟩ : ∃ document first,
      Document.ofJson? Json.drafts = .ok document
        ∧ mount (some {}) { document, options := { now := 0 } } = .ok first
        ∧ ((first.run []).1.interaction? "screen/page/0/1").bind Interaction.target?
          = some (.local "screen/page/0/1") :=
    ⟨_, _, rfl, rfl, by decide +kernel⟩
  obtain ⟨interaction, hinteraction, hkey⟩ := Option.bind_eq_some_iff.mp htarget
  obtain ⟨page, page', hpage, hpage', hmatches, -⟩ :=
    page_run_of_uses hmount [] hinteraction hkey .activate "Places"
  exact ⟨document, first, interaction, page, page', hload, hmount, hinteraction, hkey, .activate,
    hpage, hpage', hmatches⟩

/-- A value that was typed on one page is shown on another, and so is a flag that a toggle's action
writes. -/
theorem page_run_drafts_ne :
    ∃ document first,
      Document.ofJson? Json.drafts = .ok document
        ∧ mount (some {}) { document, options := { now := 0 } } = .ok first
        ∧ first.session.activeTab = some "Notes"
        ∧ document.tabs.map (fun tab => (tab.id, document.tabPage? tab))
          = [("Notes", some "NotesPage"), ("Places", some "PlacesPage")]
        ∧ (first.interaction? "screen/page/0/0").bind Interaction.target?
          = some (.local "screen/page/0/0")
        ∧ (first.run [.changeText "screen/page/0/0" "x", .selectTab "Places"]).1.screen.find?
            (screenId ++ "/page")
          ≠ (first.run [.selectTab "Places"]).1.screen.find? (screenId ++ "/page")
        ∧ (first.interaction? "screen/page/0/1").bind Interaction.target?
          = some (.local "screen/page/0/1")
        ∧ (first.run [.activate "screen/page/0/1", .selectTab "Places"]).1.screen.find?
            (screenId ++ "/page")
          ≠ (first.run [.selectTab "Places"]).1.screen.find? (screenId ++ "/page") := by
  refine ⟨_, _, rfl, rfl, by decide +kernel, by decide +kernel, by decide +kernel, ?_,
    by decide +kernel, ?_⟩
  · refine ne_of_apply_ne (fun page => (page.bind (·.find? "screen/page/0/0")).bind Node.text?) ?_
    decide +kernel
  · refine ne_of_apply_ne (fun page => (page.bind (·.find? "screen/page/0/1")).bind Node.text?) ?_
    decide +kernel

end Preview

end Wireframe
