import Wireframe.Proofs.CurrentScreen
import Wireframe.Proofs.EventSources
import Wireframe.Proofs.LocalValues
import Wireframe.Proofs.ReadProps

/-!
# What controls show

A control shows the value that is kept where it writes: in the state, or for its node or the radio
group around it, however deep it stands in the group (`Stage.shows_of_value?`). In the state a text may
refer to sample data, and then the data is shown if it is there (`Preview.toggles_run`).
-/

namespace Wireframe

lemma Interaction.target?_of_writes {interaction : Interaction} {target : Target} {value : Json}
    (h : interaction.Writes target value) : interaction.target? = some target := by
  cases interaction <;> first | rw [h.1]; rfl | cases h

lemma Node.target?_of_interaction {node : Node} {interaction : Interaction}
    (h : node.interaction = some interaction) : node.target? = interaction.target? := by
  rw [target?, h]
  rfl

lemma Node.target?_of_writes {node : Node} {interaction : Interaction} {target : Target} {value : Json}
    (hinteraction : node.interaction = some interaction) (h : interaction.Writes target value) :
    node.target? = some target :=
  (target?_of_interaction hinteraction).trans (Interaction.target?_of_writes h)

namespace Node

/-- The text that a text field shows. -/
def fieldText? (node : Node) : Option String :=
  match node.widget with
  | .textField _ _ text _ _ _ _ => some text
  | _ => none

/-- Whether a toggle is on. -/
def isOn? (node : Node) : Option Bool :=
  match node.widget with
  | .toggle _ on _ => some on
  | _ => none

/-- Whether a radio button is selected. -/
def isSelected? (node : Node) : Option Bool :=
  match node.widget with
  | .radio _ selected => some selected
  | _ => none

variable {node : Node} {value : Json}

lemma Shows.fieldText? (h : node.Shows value) (hfield : node.fieldText?.isSome) :
    node.fieldText? = some value.display := by
  unfold Node.fieldText? at hfield ⊢
  split at hfield
  · next hwidget => simpa only [Shows, hwidget, Option.some_inj] using h
  · cases hfield

lemma Shows.isOn? {on : Bool} (h : node.Shows value) (hon : node.isOn? = some on) :
    on = value.isTruthy := by
  unfold Node.isOn? at hon
  split at hon
  · next hwidget =>
    cases hon
    simpa only [Shows, hwidget] using h
  · cases hon

lemma Shows.isSelected? {selected : Bool} {target : Target} {own : Json} (h : node.Shows value)
    (hselected : node.isSelected? = some selected)
    (hinteraction : node.interaction = some (.selectRadio target own)) :
    selected = (value == own) := by
  unfold Node.isSelected? at hselected
  split at hselected
  · next hwidget =>
    cases hselected
    simpa only [Shows, hwidget, hinteraction] using h
  · cases hselected

lemma Shows.picked {target : Target} {options : List Json} {current : Option Nat}
    (h : node.Shows value) (hpicker : ∃ label shown count disabled,
      node.widget = .picker label shown count disabled)
    (hinteraction : node.interaction = some (.cyclePicker target options current)) :
    current = options.findIdx? (· == value) := by
  obtain ⟨label, shown, count, disabled, hwidget⟩ := hpicker
  simpa only [Shows, hwidget, hinteraction] using h

end Node

/-- A text that starts otherwise refers to no sample data. -/
lemma Json.string_ne_reference {text : String} (h : text.toList.head? ≠ some '@') (rest : String) :
    string text ≠ .string ("@sampleData." ++ rest) := by
  intro heq
  refine h ?_
  rw [string.inj heq, String.toList_append]
  rfl

/-- A text that is bound to the state reads as true. -/
lemma Binding.isTruthy_of_parse {source written : String} {path : Path}
    (h : parse source = .state path written) : (Json.string source).isTruthy = true := by
  have hliteral : ∀ text ∈ ["", "false"], (parse text).statePath? = none := by decide
  have hne : source ∉ ["", "false"] := by
    intro hmem
    have hnone := hliteral source hmem
    rw [h] at hnone
    cases hnone
  simpa [Json.isTruthy] using hne

/-- A control that writes to the state shows what the value stands for that is there. -/
lemma Site.controlValue_of_state {site : Site} {field : Field} {key : String} {value : Json}
    (h : (Child.inline site.component).AllRead) (htarget : site.target field = .state key)
    (hvalue : site.context.state.lookup (Path.parse key) = some value) :
    site.controlValue field = Binding.follow site.context value := by
  obtain ⟨path, source, hprop, -, rfl⟩ := bound_of_target h htarget
  simp only [controlValue]
  rw [htarget]
  simp only [Site.value, hprop, PropValue.resolve?, PropValue.resolve, Binding.resolve,
    Binding.lookup, hvalue, Option.map_some, Option.getD_some]

/-- Where nothing is there, it shows the text that it is bound by. -/
lemma Site.controlValue_of_missing {site : Site} {field : Field} {key : String}
    (h : (Child.inline site.component).AllRead) (htarget : site.target field = .state key)
    (hmissing : site.context.state.lookup (Path.parse key) = none) :
    ∃ path source, Binding.parse source = .state path source
      ∧ site.controlValue field = .string source := by
  obtain ⟨path, source, hprop, hsource, rfl⟩ := bound_of_target h htarget
  refine ⟨_, source, hsource, ?_⟩
  simp only [controlValue]
  rw [htarget]
  simp only [Site.value, hprop, PropValue.resolve?, PropValue.resolve, Binding.resolve,
    Binding.lookup, hmissing, Option.map_none, Option.getD_none, Binding.source]

/-- What is drawn below a component is handed the radio group that the component hands on. -/
lemma Site.radioGroup_of_mem_cues {site : Site} {cue : Cue} (h : cue ∈ site.cues) :
    cue.scope.radioGroup = site.handed.radioGroup := by
  obtain ⟨part, -, hcue⟩ := List.mem_filterMap.mp h
  cases part with
  | child content id => cases hcue; rfl
  | framed frame item content id => cases hcue; rfl
  | plain node => cases hcue

namespace Site

/-- The controls that write somewhere: what they look like, and what activating them does. -/
inductive Control (site : Site) (node : Node) : Prop where
  | textField {label placeholder helper error : Option String} {text : String}
      {secure multiline : Bool}
      (widget : node.widget = .textField label placeholder text helper error secure multiline)
      (interaction : node.interaction = some (.editText (site.target .value)))
  | picker {label shown : Option String} {count : Nat} {disabled : Bool}
      (widget : node.widget = .picker label shown count disabled) (nonempty : site.choices ≠ [])
      (interaction : node.interaction = some (.cyclePicker (site.target .selected)
        (site.choices.map Choice.value)
        (Choice.indexOf? site.choices (site.controlValue .selected))))
  | toggle {label : Option String} {style : ToggleStyle} {followUp : Option String}
      (widget : node.widget = .toggle label (site.controlValue .value).isTruthy style)
      (interaction : node.interaction
        = some (.toggle (site.target .value) (site.controlValue .value).isTruthy followUp))
  | radio {label : String} {selected : Bool} (widget : node.widget = .radio label selected)
      (interaction : node.interaction = some (.selectRadio site.radioTarget (site.value .value)))

/-- A component whose node writes somewhere is one of these. -/
theorem control_node {site : Site} {draw : Draw} {target : Target}
    (h : (site.node draw).target? = some target) : site.Control (site.node draw) := by
  rw [target?_node] at h
  simp only [node, body]
  cases hform : site.component.type.form with
  | textInput => exact .textField rfl rfl
  | picker =>
    rw [hform] at h
    dsimp only at h
    split at h
    · cases h
    · next hempty => exact .picker rfl (mt List.isEmpty_iff.mpr hempty) (if_neg hempty)
  | toggle => exact .toggle rfl rfl
  | radio =>
    rw [radio_eq]
    exact .radio rfl rfl
  | _ => rw [hform] at h; cases h

end Site

namespace Stage

/-- What controls show for a value that is kept where they write. -/
def shownFor (stage : Stage) : Target → Json → Json
  | .state _, value => (value.sampleReference?.bind stage.document.sampleData.lookup).getD value
  | .local _, value => value

variable {stage : Stage} {session : Session} {target : Target} {value : Json}

lemma follow_context (stage : Stage) (session : Session) (item : Option Json) (key : String)
    (value : Json) : Binding.follow (stage.context session item) value
      = stage.shownFor (.state key) value := by
  simp only [Binding.follow, context, shownFor]
  cases value.sampleReference?.bind stage.document.sampleData.lookup <;> rfl

/-- A value that refers to no sample data that is there is shown itself. -/
lemma shownFor_eq_self (h : ∀ rest, value = .string ("@sampleData." ++ rest) →
      stage.document.sampleData.lookup (Path.parse rest) = none) :
    stage.shownFor target value = value := by
  cases target with
  | «local» key => rfl
  | state key =>
    cases value with
    | string text =>
      rw [← stage.follow_context stage.start.session none]
      exact Binding.follow_of_no_reference fun rest hrest => h rest (congrArg _ hrest)
    | _ => rfl

lemma shownFor_reference {key rest : String} {found : Json}
    (h : stage.document.sampleData.lookup (Path.parse rest) = some found) :
    stage.shownFor (.state key) (.string ("@sampleData." ++ rest)) = found := by
  rw [← stage.follow_context stage.start.session none]
  exact Binding.follow_of_reference h

/-! ### Fields, groups and nodes -/

lemma controlValue_site {scope : Scope} {component : Component} {id : String} {field : Field}
    (h : (Child.inline component).AllRead)
    (htarget : (stage.site session scope component id).target field = target)
    (hvalue : session.value? target = some value) :
    (stage.site session scope component id).controlValue field = stage.shownFor target value := by
  cases target with
  | «local» key =>
    have hlocal : (stage.site session scope component id).locals.get? key = some value := hvalue
    exact Site.controlValue_of_local hlocal htarget
  | state key =>
    rw [← stage.follow_context session scope.item]
    exact Site.controlValue_of_state h htarget hvalue

/-- However deep below a radio group, what is handed down of it is what it shows. -/
lemma Placed.current_radioGroup (h : stage.document.AllRead) {depth : Nat} {cue : Cue}
    (hplaced : stage.Placed session depth cue) {group : RadioGroup}
    (hgroup : cue.scope.radioGroup = some group) (htarget : group.target = target)
    (hvalue : session.value? target = some value) :
    group.current = stage.shownFor target value := by
  induction hplaced with
  | begun hbegun => cases hbegun <;> cases hgroup
  | @inner depth cue next component hplaced hcomponent hnext ih =>
    have hread := allRead_of_resolve? h (Placed.allRead h hplaced) hcomponent
    rw [Site.radioGroup_of_mem_cues hnext, Site.handed] at hgroup
    split at hgroup
    · cases hgroup
      exact controlValue_site hread htarget hvalue
    · exact ih hgroup

/-- A node of a screen that writes somewhere is that of a component in a loaded document. -/
lemma exists_site_of_target? (h : stage.document.AllRead) {n : Node}
    (hn : n ∈ (stage.screen session).preorder) (htarget : n.target? = some target) :
    ∃ depth cue component, stage.Placed session depth cue ∧ (Child.inline component).AllRead
      ∧ ∃ draw, n = (stage.site session cue.scope component cue.id).node draw := by
  cases made_of_mem_screen hn with
  | fixture _ hofScreen =>
    obtain ⟨interaction, hinteraction, hwrites⟩ := Option.bind_eq_some_iff.mp htarget
    rw [Interaction.target?_of_isOfScreen (hofScreen _ hinteraction)] at hwrites
    cases hwrites
  | tooDeep _ => cases htarget
  | @component depth cue component hplaced hcomponent =>
    exact ⟨depth, cue, component, hplaced,
      allRead_of_resolve? h (Placed.allRead h hplaced) hcomponent, _, rfl⟩

/-- Every control of a screen shows the value that is kept where it writes. -/
theorem shows_of_value? (h : stage.document.AllRead) {n : Node}
    (hn : n ∈ (stage.screen session).preorder) (htarget : n.target? = some target)
    (hvalue : session.value? target = some value) : n.Shows (stage.shownFor target value) := by
  obtain ⟨depth, cue, component, hplaced, hread, draw, rfl⟩ := exists_site_of_target? h hn htarget
  refine Site.shows_of_current (fun field hfield => controlValue_site hread hfield hvalue) ?_
    (fun group hgroup hkey => hplaced.current_radioGroup h hgroup hkey hvalue) htarget
  rintro key rfl
  exact hvalue

/-- A toggle is on where there is nothing in the state, since it shows the text that it is bound by. -/
lemma isOn_of_missing (h : stage.document.AllRead) {n : Node}
    (hn : n ∈ (stage.screen session).preorder) {on : Bool} (hon : n.isOn? = some on) {key : String}
    (htarget : n.target? = some (.state key)) (hmissing : session.value? (.state key) = none) :
    on = true := by
  obtain ⟨depth, cue, component, -, hread, draw, rfl⟩ := exists_site_of_target? h hn htarget
  cases Site.control_node htarget with
  | toggle hwidget hinteraction =>
    simp only [Node.isOn?, hwidget] at hon
    rw [Node.target?_of_interaction hinteraction] at htarget
    obtain ⟨path, source, hsource, hshown⟩ :=
      Site.controlValue_of_missing hread (Option.some_inj.mp htarget) hmissing
    rw [hshown, Binding.isTruthy_of_parse hsource] at hon
    exact (Option.some_inj.mp hon).symm
  | textField hwidget _ | picker hwidget _ _ | radio hwidget _ =>
    simp only [Node.isOn?, hwidget] at hon
    cases hon

end Stage

/-! ### Toggles in the state -/

namespace Preview

/-- After any run, a toggle that writes to the state is on just if the value there reads as true. Where
the value is a text that refers to sample data that is there, the toggle is on just if the data does.
Where there is no value, the toggle is on. -/
theorem toggles_run {stage : Stage} (hloaded : stage.document.Loaded) {canvas : Canvas}
    {first : Preview} (h : mount (some canvas) stage = .ok first) (operations : List Operation)
    {n : Node} (hn : n ∈ (first.run operations).1.screen.preorder) {on : Bool}
    (hon : n.isOn? = some on) {key : String} (htarget : n.target? = some (.state key)) :
    let value? := (first.run operations).1.session.value? (.state key)
    (value? = none → on = true)
      ∧ ∀ value, value? = some value →
        ((∀ rest, value = .string ("@sampleData." ++ rest) →
            stage.document.sampleData.lookup (Path.parse rest) = none) → on = value.isTruthy)
          ∧ ∀ rest found, value = .string ("@sampleData." ++ rest) →
            stage.document.sampleData.lookup (Path.parse rest) = some found →
              on = found.isTruthy := by
  intro value?
  rw [screen_run_of_mount h] at hn
  refine ⟨Stage.isOn_of_missing hloaded.allRead hn hon htarget, fun value hvalue => ?_⟩
  have hshown := (Stage.shows_of_value? hloaded.allRead hn htarget hvalue).isOn? hon
  refine ⟨fun hplain => ?_, ?_⟩
  · rw [hshown, Stage.shownFor_eq_self hplain]
  · rintro rest found rfl hfound
    rw [hshown, Stage.shownFor_reference hfound]

/-- A switch for a text that refers to sample data, and one for a place where there is nothing. -/
theorem toggles_run_settings :
    ∃ document first n m,
      document.Loaded
        ∧ mount (some {}) { document, options := { now := 0 } } = .ok first
        ∧ (let last := (first.run [.activate "screen/page/0/0"]).1
          n ∈ last.screen.preorder
            ∧ n.target? = some (.state "sync")
            ∧ last.session.value? (.state "sync") = some (.string "@sampleData.sync")
            ∧ n.isOn? = some false
            ∧ m ∈ last.screen.preorder
            ∧ m.target? = some (.state "offline")
            ∧ last.session.value? (.state "offline") = none
            ∧ m.isOn? = some true) := by
  obtain ⟨document, first, hload, hmount, hsync, htext, hdata, hoffline, hmissing⟩ : ∃ document first,
      Document.ofJson? Json.settings = .ok document
        ∧ mount (some {}) { document, options := { now := 0 } } = .ok first
        ∧ (let last := (first.run [.activate "screen/page/0/0"]).1
          (last.screen.find? "screen/page/0/4").map (fun n => (n.isOn?.isSome, n.target?))
              = some (true, some (.state "sync"))
            ∧ (last.session.value? (.state "sync")).bind Json.string? = some "@sampleData.sync"
            ∧ (document.sampleData.lookup (Path.parse "sync")).map Json.isTruthy = some false
            ∧ (last.screen.find? "screen/page/0/5").map (fun n => (n.isOn?.isSome, n.target?))
              = some (true, some (.state "offline"))
            ∧ (last.session.value? (.state "offline")).isNone) :=
    ⟨_, _, rfl, rfl, by decide +kernel⟩
  have hloaded : document.Loaded := ⟨Json.settings, rfl, hload⟩
  obtain ⟨n, hfind, hn⟩ := Option.map_eq_some_iff.mp hsync
  obtain ⟨hon, htarget⟩ := Prod.mk.inj hn
  obtain ⟨on, hon⟩ := Option.isSome_iff_exists.mp hon
  obtain ⟨value, hvalue, hstring⟩ := Option.bind_eq_some_iff.mp htext
  obtain rfl : value = .string "@sampleData.sync" := by
    cases value with
    | string text => rw [Option.some_inj.mp hstring]
    | _ => cases hstring
  obtain ⟨found, hfound, hfalse⟩ := Option.map_eq_some_iff.mp hdata
  obtain ⟨m, hother, hm⟩ := Option.map_eq_some_iff.mp hoffline
  obtain ⟨hmon, hmtarget⟩ := Prod.mk.inj hm
  obtain ⟨shown, hmon⟩ := Option.isSome_iff_exists.mp hmon
  have hmem := Node.mem_of_find? hfind
  have hmmem := Node.mem_of_find? hother
  refine ⟨document, first, n, m, hloaded, hmount, hmem, htarget, hvalue, ?_, hmmem, hmtarget,
    Option.isNone_iff_eq_none.mp hmissing, ?_⟩
  · rw [hon, ← hfalse, ((@toggles_run { document, options := { now := 0 } } hloaded _ _ hmount _ n
      hmem on hon _ htarget).2 _ hvalue).2 "sync" found rfl hfound]
  · rw [hmon, (@toggles_run { document, options := { now := 0 } } hloaded _ _ hmount _ m hmmem shown
      hmon _ hmtarget).1 (Option.isNone_iff_eq_none.mp hmissing)]

/-- A switch is off although the text in the state reads as true, since the sample data that it refers
to does not, and another one is on although nothing is there. -/
theorem toggles_run_settings_ne :
    ∃ document first,
      document.Loaded
        ∧ mount (some {}) { document, options := { now := 0 } } = .ok first
        ∧ (first.screen.find? "screen/page/0/4").map (fun n => (n.isOn?, n.target?))
          = some (some false, some (.state "sync"))
        ∧ (first.session.value? (.state "sync")).map Json.isTruthy = some true
        ∧ (first.screen.find? "screen/page/0/5").map (fun n => (n.isOn?, n.target?))
          = some (some true, some (.state "offline"))
        ∧ (first.session.value? (.state "offline")).map Json.isTruthy = none :=
  ⟨_, _, ⟨Json.settings, rfl, rfl⟩, rfl, by decide +kernel, by decide +kernel, by decide +kernel,
    by decide +kernel⟩

end Preview

end Wireframe
