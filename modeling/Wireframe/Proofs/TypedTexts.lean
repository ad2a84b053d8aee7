import Wireframe.Proofs.Addresses
import Wireframe.Proofs.ShownValues

/-!
# Typing into text fields

A text that is typed into a field is written where the field reads, so that the field shows it: as it
is, if the value is kept for the node. A field that is bound to the state shows what the state stands
for, and there a text that refers to sample data stands for that data, as far as it is there
(`Preview.typed_run`).
-/

namespace Wireframe

/-! ### Text fields -/

lemma Node.fieldText?_of_isFixture {node : Node} (h : node.isFixture) : node.fieldText? = none := by
  unfold isFixture at h
  unfold fieldText?
  split at h <;> simp_all

namespace Site

variable {site : Site} {draw : Draw} {field : Field} {key : String} {value : Json}

lemma fieldText?_node :
    (site.node draw).fieldText? =
      if site.component.type.form = .textInput then some (site.controlValue .value).display
      else none := by
  simp only [node, body]
  cases site.component.type.form with
  | stack =>
    simp only [stack]
    split <;> rfl
  | generic =>
    simp only [other]
    split <;> rfl
  | _ => rfl

/-- A component that shows a text that was typed in is a text field, and typing writes where its value
is. -/
lemma node_of_fieldText? (h : (site.node draw).fieldText?.isSome) :
    (site.node draw).interaction = some (.editText (site.target .value))
      ∧ (site.node draw).fieldText? = some (site.controlValue .value).display := by
  rw [fieldText?_node] at h ⊢
  split at h
  · next hform =>
    rw [if_pos hform]
    refine ⟨?_, rfl⟩
    simp only [node, body, hform]
    rfl
  · cases h

end Site

namespace Stage

variable {stage : Stage} {session : Session} {n : Node}

/-- A text field of a screen belongs to a component in a loaded document: it shows the component's
value, and typing writes where that is. -/
lemma exists_site_of_fieldText? (h : stage.document.AllRead)
    (hn : n ∈ (stage.screen session).preorder) (hfield : n.fieldText?.isSome) :
    ∃ scope component id, (Child.inline component).AllRead
      ∧ n.interaction
        = some (.editText ((stage.site session scope component id).target .value))
      ∧ n.fieldText?
        = some ((stage.site session scope component id).controlValue .value).display := by
  cases made_of_mem_screen hn with
  | fixture hfixture =>
    rw [Node.fieldText?_of_isFixture hfixture] at hfield
    cases hfield
  | tooDeep _ => cases hfield
  | @component _ cue component hplaced hcomponent =>
    exact ⟨cue.scope, component, cue.id, allRead_of_resolve? h (Placed.allRead h hplaced) hcomponent,
      Site.node_of_fieldText? hfield⟩

/-- The text that is kept where a text field writes is what the field shows, unless the field is bound
to the state and the text refers to sample data that is there. Then it shows that data. -/
theorem fieldText?_of_value? (h : stage.document.AllRead)
    (hn : n ∈ (stage.screen session).preorder) (hfield : n.fieldText?.isSome) {target : Target}
    (htarget : n.target? = some target) {text : String}
    (hvalue : session.value? target = some (.string text)) :
    ((∃ key, target = .local key) ∨ (∀ rest, text = "@sampleData." ++ rest →
          stage.document.sampleData.lookup (Path.parse rest) = none) →
        n.fieldText? = some text)
      ∧ ∀ key rest value, target = .state key → text = "@sampleData." ++ rest →
        stage.document.sampleData.lookup (Path.parse rest) = some value →
          n.fieldText? = some value.display := by
  rw [(shows_of_value? h hn htarget hvalue).fieldText? hfield]
  refine ⟨fun hplain => ?_, ?_⟩
  · have hshown : stage.shownFor target (.string text) = .string text := by
      rcases hplain with ⟨key, rfl⟩ | hreference
      · rfl
      · exact shownFor_eq_self fun rest hrest => hreference rest (Json.string.inj hrest)
    rw [hshown, Json.display_string]
  · rintro key rest found rfl rfl hfound
    rw [shownFor_reference hfound]

end Stage

/-- A text that is written is kept, also if it was there before. -/
lemma Change.value?_write (target : Target) (text : String) (activity : Activity) :
    (Change.write target (.string text) activity).1.session.value? target
      = some (.string text) := by
  simp only [write, ofSession?]
  by_cases hsame : (activity.session.value? target == some (.string text)) = true
  · rw [if_pos hsame]
    cases hvalue : activity.session.value? target with
    | none =>
      rw [hvalue] at hsame
      cases hsame
    | some value =>
      rw [hvalue] at hsame
      cases value with
      | string other => exact congrArg _ (congrArg _ (eq_of_beq (α := String) hsame))
      | _ => cases hsame
  · rw [if_neg hsame]
    exact activity.session.value?_setValue target _

/-- A form with a field for the state's name and a field for a note, and a name in the sample data. -/
def Json.signUp : Json :=
  .object
    [("pages", .object
        [("Home", .object
            [("layout", .object
              [("type", .string "VerticalStack"),
                ("children", .array
                  [.object
                      [("type", .string "Entry"), ("label", .string "Name"),
                        ("value", .string "@state.name")],
                    .object [("type", .string "Editor"), ("label", .string "Note")]])])])]),
      ("sampleData", .object [("name", .string "Ada")]),
      ("state", .object [("name", .string "")])]

namespace Preview

/-- After any run, a text that is typed into a field of the screen is what each field shows from then
on that writes to the same place, unless the place is in the state and the text refers to sample data
that is there: then the fields show that data. Once the preview is torn down, typing changes
nothing. -/
theorem typed_run {stage : Stage} (hloaded : stage.document.Loaded) {canvas : Canvas}
    {first : Preview} (h : mount (some canvas) stage = .ok first) (operations : List Operation)
    {n : Node} (hn : n ∈ (first.run operations).1.screen.preorder) (hfield : n.fieldText?.isSome)
    (text : String) :
    ((first.run operations).1.tornDown = false →
        ∀ m ∈ ((first.run operations).1.changeText n.id text).1.screen.preorder,
          m.fieldText?.isSome → m.target? = n.target? →
            ((∃ key, n.target? = some (.local key)) ∨ (∀ rest, text = "@sampleData." ++ rest →
                  stage.document.sampleData.lookup (Path.parse rest) = none) →
                m.fieldText? = some text)
              ∧ ∀ key rest value, n.target? = some (.state key) → text = "@sampleData." ++ rest →
                stage.document.sampleData.lookup (Path.parse rest) = some value →
                  m.fieldText? = some value.display)
      ∧ ((first.run operations).1.tornDown = true →
        (first.run operations).1.changeText n.id text = ((first.run operations).1, [])) := by
  have hcurrent := (current_of_mount h).run operations
  have hsame : (first.run operations).1.stage = stage := stage_run_of_mount h operations
  generalize (first.run operations).1 = preview at hn hcurrent hsame ⊢
  subst hsame
  have hread : preview.stage.document.AllRead := hloaded.allRead
  -- ids are addresses, so that what is typed under the id of the field is typed into it
  obtain ⟨-, hinteraction⟩ := hcurrent.interaction?_eq hloaded hn
  rw [hcurrent.screen] at hn
  obtain ⟨scope, component, id, -, hedit, -⟩ := Stage.exists_site_of_fieldText? hread hn hfield
  generalize (preview.stage.site preview.session scope component id).target .value = target at hedit
  have htyped : preview.changeText n.id text = preview.perform (.write target (.string text)) := by
    rw [changeText, hinteraction, hedit]
  have htarget : n.target? = some target := by
    rw [Node.target?, hedit]
    rfl
  rw [htyped, htarget]
  refine ⟨fun hlive m hm hshown hmtarget => ?_, perform_of_tornDown⟩
  rw [perform_of_live hlive] at hm
  simp only [Option.some.injEq]
  exact Stage.fieldText?_of_value? hread hm hshown hmtarget
    (Change.value?_write target text preview.activity)

/-- A name that is typed in after a note. -/
theorem typed_run_signUp :
    ∃ document first n m,
      document.Loaded
        ∧ mount (some {}) { document, options := { now := 0 } } = .ok first
        ∧ n ∈ (first.run [.changeText "screen/page/0/1" "Call back"]).1.screen.preorder
        ∧ n.id = "screen/page/0/0"
        ∧ n.fieldText? = some ""
        ∧ m ∈ ((first.run [.changeText "screen/page/0/1" "Call back"]).1.changeText n.id
            "Grace").1.screen.preorder
        ∧ m.target? = n.target?
        ∧ m.fieldText? = some "Grace" := by
  obtain ⟨document, first, hload, hmount, hlive, hbefore, hafter⟩ : ∃ document first,
      Document.ofJson? Json.signUp = .ok document
        ∧ mount (some {}) { document, options := { now := 0 } } = .ok first
        ∧ (first.run [.changeText "screen/page/0/1" "Call back"]).1.tornDown = false
        ∧ ((first.run [.changeText "screen/page/0/1" "Call back"]).1.screen.find?
            "screen/page/0/0").map (fun n => (n.id, n.fieldText?, n.target?))
          = some ("screen/page/0/0", some "", some (.state "name"))
        ∧ (((first.run [.changeText "screen/page/0/1" "Call back"]).1.changeText "screen/page/0/0"
            "Grace").1.screen.find? "screen/page/0/0").map
              (fun m => (m.fieldText?.isSome, m.target?))
          = some (true, some (.state "name")) :=
    ⟨_, _, rfl, rfl, rfl, by decide +kernel, by decide +kernel⟩
  obtain ⟨n, hfind, hn⟩ := Option.map_eq_some_iff.mp hbefore
  obtain ⟨m, hfound, hm⟩ := Option.map_eq_some_iff.mp hafter
  simp only [Prod.mk.injEq] at hn hm
  obtain ⟨hid, htext, htarget⟩ := hn
  have hloaded : document.Loaded := ⟨Json.signUp, rfl, hload⟩
  have hmem := Node.mem_of_find? hfind
  have hsame : m.target? = n.target? := hm.2.trans htarget.symm
  rw [← hid] at hfound
  have hfield : n.fieldText?.isSome := by rw [htext, Option.isSome_some]
  obtain ⟨htyped, -⟩ :=
    (@typed_run { document, options := { now := 0 } } hloaded _ _ hmount _ n hmem hfield "Grace").1
      hlive m (Node.mem_of_find? hfound) hm.1 hsame
  refine ⟨document, first, n, m, hloaded, hmount, hmem, hid, htext, Node.mem_of_find? hfound, hsame,
    htyped (.inr fun rest hrest => ?_)⟩
  have hstart := congrArg (fun text => text.toList.head?) hrest
  simp at hstart

/-- A field that is bound to the state does not show a text that refers to sample data, and no field
shows what is typed into it after the end. -/
theorem typed_run_signUp_ne :
    ∃ document first,
      document.Loaded
        ∧ mount (some {}) { document, options := { now := 0 } } = .ok first
        ∧ (first.screen.find? "screen/page/0/0").map (fun n => (n.fieldText?, n.target?))
          = some (some "", some (.state "name"))
        ∧ ((first.changeText "screen/page/0/0" "@sampleData.name").1.screen.find?
            "screen/page/0/0").map (fun m => (m.fieldText?, m.target?))
          = some (some "Ada", some (.state "name"))
        ∧ ((first.run [.teardown]).1.screen.find? "screen/page/0/0").map
            (fun n => (n.fieldText?, n.target?))
          = some (some "", some (.state "name"))
        ∧ (((first.run [.teardown]).1.changeText "screen/page/0/0" "Grace").1.screen.find?
            "screen/page/0/0").map (fun m => (m.fieldText?, m.target?))
          = some (some "", some (.state "name")) :=
  ⟨_, _, ⟨Json.signUp, rfl, rfl⟩, rfl, by decide +kernel, by decide +kernel, by decide +kernel,
    by decide +kernel⟩

end Preview

end Wireframe
