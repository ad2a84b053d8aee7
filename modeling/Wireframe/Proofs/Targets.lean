import Wireframe.Proofs.Nesting

/-!
# Where controls write

A control writes to the place in the state that it is bound to, or else to the value that is kept for
a node: for the control itself, or for the radio group around it (`Stage.owner_of_mem_screen`).
-/

namespace Wireframe

/-- Where an interaction writes, if it writes a value of its node. -/
def Interaction.target? : Interaction → Option Target
  | cyclePicker target _ _ => some target
  | toggle target _ _ => some target
  | selectRadio target _ => some target
  | editText target => some target
  | _ => none

lemma Interaction.target?_of_isOfScreen {interaction : Interaction} (h : interaction.isOfScreen) :
    interaction.target? = none := by
  cases interaction <;> first | rfl | cases h

namespace Node

/-- Where activating the node or typing into it writes. -/
def target? (node : Node) : Option Target :=
  node.interaction.bind Interaction.target?

def isRadioGroup (node : Node) : Prop :=
  ∃ label, node.widget = .radioGroup label

lemma interaction_ne_none {node : Node} {target : Target} (h : node.target? = some target) :
    node.interaction ≠ none := by
  intro hnone
  rw [target?, hnone] at h
  cases h

end Node

namespace Site

variable (site : Site) (draw : Draw)

/-- The options of a picker. -/
def choices : List Choice :=
  Choice.list ((site.prop? .labelPath).bind PropValue.literal?)
    ((site.prop? .valuePath).bind PropValue.literal?) (site.value .options)

/-- Where a radio button writes: where its group does, if it has one. -/
def radioTarget : Target :=
  match site.scope.radioGroup with
  | some group => group.target
  | none => .local site.id

lemma target?_click : site.click?.bind Interaction.target? = none := by
  refine Option.bind_eq_none_iff.mpr fun interaction h => ?_
  obtain ⟨action, -, rfl⟩ := Option.map_eq_some_iff.mp h
  rfl

/-- The target of a component, by its form. -/
lemma target?_node :
    (site.node draw).target? = match site.component.type.form with
      | .textInput => some (site.target .value)
      | .picker => if site.choices.isEmpty then none else some (site.target .selected)
      | .toggle => some (site.target .value)
      | .radio => some site.radioTarget
      | _ => none := by
  simp only [node, body]
  cases site.component.type.form with
  | button => exact site.target?_click
  | fab => exact site.target?_click
  | picker =>
    show (if site.choices.isEmpty then none else some _).bind _ = _
    split <;> rfl
  | generic =>
    simp only [other]
    split <;> rfl
  | radio =>
    simp only [radio, radioTarget]
    cases site.scope.radioGroup <;> rfl
  | _ => rfl

variable {site draw} {key : String}

lemma eq_of_target {field : Field} (h : site.target field = .local key) : key = site.id := by
  simp only [target] at h
  split at h
  · cases h
  · cases h
    rfl

/-- A component writes to the value of its own node, unless it is a radio button of a group. -/
lemma key_node (h : (site.node draw).target? = some (.local key)) :
    key = site.id ∨ ∃ group, site.scope.radioGroup = some group ∧ group.target = .local key := by
  rw [target?_node] at h
  split at h
  · exact .inl (eq_of_target (Option.some_inj.mp h))
  · split at h
    · cases h
    · exact .inl (eq_of_target (Option.some_inj.mp h))
  · exact .inl (eq_of_target (Option.some_inj.mp h))
  · simp only [radioTarget] at h
    split at h
    · next group hgroup => exact .inr ⟨group, hgroup, Option.some_inj.mp h⟩
    · cases h
      exact .inl rfl
  · cases h

/-- A group that a component hands on is its own or the one it was handed. -/
lemma handed_cases {group : RadioGroup} (h : site.handed.radioGroup = some group)
    (hkey : group.target = .local key) :
    ((site.node draw).isRadioGroup ∧ key = site.id) ∨ site.scope.radioGroup = some group := by
  simp only [handed] at h
  split at h
  · next hform =>
    cases h
    refine .inl ⟨⟨site.text? .label, ?_⟩, eq_of_target hkey⟩
    simp only [node, body, hform]
    rfl
  · exact .inr h

end Site

namespace Stage

variable {stage : Stage} {session : Session} {n : Node} {key : String}

/-- What a drawing writes locally is the value of the node itself, of a radio group that the drawing
was handed, or of a radio group in the drawing around the node. -/
lemma owner_of_mem_draw {depth : Nat} {scope : Scope} {content : Child} {id : String}
    (hn : n ∈ (stage.draw session depth scope content id).preorder)
    (hkey : n.target? = some (.local key)) :
    key = n.id ∨ (∃ group, scope.radioGroup = some group ∧ group.target = .local key)
      ∨ ∃ group ∈ (stage.draw session depth scope content id).preorder,
        group.isRadioGroup ∧ key = group.id ∧ n ∈ group.preorder := by
  induction depth generalizing scope content id with
  | zero =>
    rw [Node.eq_of_mem_leaf rfl hn] at hkey
    cases hkey
  | succ depth ih =>
    rcases stage.draw_cases session depth scope content id with
      ⟨component, hdraw⟩ | ⟨reference, hdraw⟩
    · rw [hdraw] at hn ⊢
      rcases Site.mem_preorder_node _ _ hn (Node.interaction_ne_none hkey) with
        rfl | ⟨item, content, id, hdrawn, hn⟩
      · rcases Site.key_node hkey with hown | hgroup
        · exact .inl (hown.trans (Site.id_node _ _).symm)
        · exact .inr (.inl hgroup)
      · rcases ih hn with hown | ⟨group, hgroup, htarget⟩ | ⟨group, hmem, hgroup⟩
        · exact .inl hown
        · rcases Site.handed_cases hgroup htarget with ⟨hradio, hid⟩ | hscope
          · have hbelow := Node.mem_preorder_trans hn _ hdrawn
            exact .inr (.inr ⟨_, Node.mem_preorder_self _, hradio, hid.trans (Site.id_node _ _).symm,
              hbelow⟩)
          · exact .inr (.inl ⟨group, hscope, htarget⟩)
        · exact .inr (.inr ⟨group, Node.mem_preorder_trans hmem _ hdrawn, hgroup⟩)
    · rw [hdraw] at hn
      rw [Node.eq_of_mem_leaf rfl hn] at hkey
      cases hkey

/-! ### Screens -/

variable (stage session)

/-- Whether a node of a tree belongs to a drawing in it that was handed no radio group. -/
def DrawnIn (tree n : Node) : Prop :=
  ∃ depth scope content id, scope.radioGroup = none
    ∧ stage.draw session depth scope content id ∈ tree.preorder
    ∧ n ∈ (stage.draw session depth scope content id).preorder

variable {stage session}

lemma DrawnIn.of_child {tree child : Node} (h : stage.DrawnIn session child n)
    (hchild : child ∈ tree.children) : stage.DrawnIn session tree n := by
  obtain ⟨depth, scope, content, id, hscope, hmem, hn⟩ := h
  exact ⟨depth, scope, content, id, hscope, Node.mem_preorder.mpr (.inr ⟨child, hchild, hmem⟩), hn⟩

lemma drawnIn_draw {depth : Nat} {scope : Scope} {content : Child} {id : String}
    (hscope : scope.radioGroup = none)
    (hn : n ∈ (stage.draw session depth scope content id).preorder) :
    stage.DrawnIn session (stage.draw session depth scope content id) n :=
  ⟨depth, scope, content, id, hscope, Node.mem_preorder_self _, hn⟩

lemma drawnIn_page {target : Target} (hn : n ∈ (stage.page session).preorder)
    (htarget : n.target? = some target) : stage.DrawnIn session (stage.page session) n := by
  simp only [page] at hn ⊢
  split at hn
  · rcases Node.mem_preorder.mp hn with rfl | ⟨child, hchild, hn⟩
    · cases htarget
    · refine DrawnIn.of_child ?_ hchild
      obtain ⟨layout, -, rfl⟩ := Option.map_eq_some_iff.mp (Option.mem_toList.mp hchild)
      exact drawnIn_draw rfl hn
  · rw [Node.eq_of_mem_leaf rfl hn] at htarget
    cases htarget

/-- A node of a screen that writes somewhere belongs to a drawing. -/
theorem drawnIn_screen {target : Target} (hn : n ∈ (stage.screen session).preorder)
    (htarget : n.target? = some target) : stage.DrawnIn session (stage.screen session) n := by
  rcases begun_of_mem_screen hn with ⟨-, hofScreen⟩ | ⟨depth, cue, hbegun, hn⟩
  · obtain ⟨interaction, hinteraction, hwrites⟩ := Option.bind_eq_some_iff.mp htarget
    rw [Interaction.target?_of_isOfScreen (hofScreen _ hinteraction)] at hwrites
    cases hwrites
  · refine ⟨maxDepth - depth, cue.scope, cue.child, cue.id, ?_, hbegun.mem_screen, hn⟩
    cases hbegun <;> rfl

/-- A value that is kept for a node is the value of the control itself, or of the radio group around
it. -/
theorem owner_of_mem_screen (hn : n ∈ (stage.screen session).preorder)
    (hkey : n.target? = some (.local key)) :
    key = n.id ∨ ∃ group ∈ (stage.screen session).preorder,
      group.isRadioGroup ∧ key = group.id ∧ n ∈ group.preorder := by
  obtain ⟨depth, scope, content, id, hscope, hdrawn, hn⟩ := drawnIn_screen hn hkey
  rcases owner_of_mem_draw hn hkey with hown | ⟨group, hgroup, -⟩ | ⟨group, hmem, hgroup⟩
  · exact .inl hown
  · rw [hscope] at hgroup
    cases hgroup
  · exact .inr ⟨group, Node.mem_preorder_trans hmem _ hdrawn, hgroup⟩

end Stage

end Wireframe
