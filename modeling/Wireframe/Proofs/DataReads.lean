import Wireframe.Proofs.Nesting

/-!
# What drawings read of the data

Inside a list, what is drawn depends on the sample data and the state only through the bindings that name
them. Where these come to the same, whatever else was changed, the same is drawn
(`Stage.AgreesOn.draw_eq`).
-/

namespace Wireframe

/-! ### Props -/

/-- Whether a prop is bound to the sample data or to the state. -/
def PropValue.readsData : PropValue → Bool
  | binding (.sampleData _ _) | binding (.state _ _) => true
  | _ => false

/-- With the same item around it, a prop depends on the data only if it is bound to it; and then the item
does not count. -/
lemma PropValue.resolve_congr {prop : PropValue} {context other : Context} {item : Json}
    (hitem : context.item = some item) (hother : other.item = some item)
    (htoday : other.today = context.today)
    (h : prop.readsData →
      prop.resolve { other with item := none } = prop.resolve { context with item := none }) :
    prop.resolve other = prop.resolve context := by
  cases prop with
  | value json => rfl
  | binding binding =>
    cases binding with
    | literal text => rfl
    | sampleData path source => exact h rfl
    | state path source => exact h rfl
    | item path converter source =>
      simp only [resolve, Binding.resolve, Binding.lookup, Binding.convert, hitem, hother, htoday,
        Option.getD_some]

namespace Site

/-- The same component with other data. -/
def within (site : Site) (context : Context) : Site :=
  { site with context }

variable {site : Site} {context : Context}

/-! ### Sites -/

@[simp] lemma component_within : (site.within context).component = site.component := rfl

/-- Around the same item, fields come to the same if those do that are bound to the data. -/
lemma value_within {item : Json} (hitem : site.context.item = some item)
    (hother : context.item = some item) (htoday : context.today = site.context.today)
    (h : ∀ field prop, site.component.view.get? field = some prop → prop.readsData →
      prop.resolve { context with item := none } = prop.resolve { site.context with item := none })
    (field : Field) : (site.within context).value field = site.value field := by
  have hprop : (site.within context).prop? field = site.prop? field := rfl
  simp only [value, hprop]
  cases hfield : site.prop? field with
  | none => rfl
  | some prop => exact PropValue.resolve_congr hitem hother htoday (h field prop hfield)

lemma text?_within (h : ∀ field, (site.within context).value field = site.value field)
    (field : Field) : (site.within context).text? field = site.text? field := by
  have hprop : (site.within context).prop? field = site.prop? field := rfl
  have hvalue := h field
  simp only [value, text?, hprop] at hvalue ⊢
  cases hfield : site.prop? field with
  | none => rfl
  | some prop =>
    rw [hfield] at hvalue
    exact congrArg (some ∘ Json.display) hvalue

lemma controlValue_within (h : ∀ field, (site.within context).value field = site.value field)
    (field : Field) : (site.within context).controlValue field = site.controlValue field := by
  have htarget : (site.within context).target field = site.target field := rfl
  simp only [controlValue, htarget, h]
  rfl

/-- A component is drawn the same if all its fields come to the same. -/
lemma node_within (h : ∀ field, (site.within context).value field = site.value field)
    (draw : Draw) : (site.within context).node draw = site.node draw := by
  have htext? := text?_within h
  have htext : ∀ field, (site.within context).text field = site.text field :=
    fun field => by rw [text, htext?, text]
  have hspacing : ∀ field, (site.within context).spacing field = site.spacing field :=
    fun field => by rw [spacing, h, spacing]
  have hcontrol := controlValue_within h
  have hbody : (site.within context).body draw = site.body draw := by
    simp only [body, component_within]
    cases site.component.type.form with
    | label => simp only [label, htext, htext?]; rfl
    | button => simp only [button, htext, htext?]; rfl
    | fab => simp only [fab, htext?]; rfl
    | icon => simp only [icon, htext, h]; rfl
    | border => simp only [card, htext?, hspacing]; rfl
    | stack => simp only [stack, hspacing]; rfl
    | grid => simp only [grid, hspacing, h]; rfl
    | flex => simp only [flex, hspacing, h, htext?]; rfl
    | collection => simp only [collection, h]; rfl
    | swipe => simp only [swipe, h]; rfl
    | textInput => simp only [textField, h, htext?, hcontrol]; rfl
    | picker => simp only [picker, h, htext?, hcontrol]; rfl
    | dateTime => simp only [dateTime, htext, htext?]; rfl
    | toggle => simp only [toggle, htext?, hcontrol]; rfl
    | radioGroup => simp only [radioGroup, htext?, hcontrol]; rfl
    | radio => simp only [radio, h, htext?]; rfl
    | popup => rfl
    | snackbar => rfl
    | generic => rfl
  simp only [node, hbody]
  rfl

/-- Of a drawing, a component only uses what is to be drawn below it. -/
lemma node_congr {draw other : Draw} (h : ∀ cue ∈ site.cues, cue.draw other = cue.draw draw) :
    site.node other = site.node draw := by
  suffices hparts : site.parts.map (Part.draw other site.handed)
      = site.parts.map (Part.draw draw site.handed) by
    rw [node_eq, node_eq, hparts]
  refine List.map_congr_left fun part hpart => ?_
  cases part with
  | child content id => exact h _ (List.mem_filterMap.mpr ⟨_, hpart, rfl⟩)
  | framed frame item content id =>
    have hcontent := h _ (List.mem_filterMap.mpr ⟨_, hpart, rfl⟩)
    exact congrArg (fun node => { frame with children := [node] }) hcontent
  | plain node => rfl

/-- Inside an item, everything below is inside an item. -/
lemma isSome_item_of_mem_cues {cue : Cue} (hitem : site.scope.item.isSome) (h : cue ∈ site.cues) :
    cue.scope.item.isSome := by
  have hhanded : site.handed.item.isSome := by
    simp only [handed]
    split <;> exact hitem
  obtain ⟨part, -, hcue⟩ := List.mem_filterMap.mp h
  cases part with
  | child content id => cases hcue; exact hhanded
  | framed frame item content id =>
    cases hcue
    simp [hhanded]
  | plain node => cases hcue

end Site

namespace Stage

/-! ### Drawings -/

/-- Whether another stage and session differ from these in nothing that counts for what a child leads to
inside an item: they have the same looks, day and local values, the same components for it, and the same
values for the props of these that are bound to the data. -/
structure AgreesOn (stage : Stage) (session : Session) (root : Child) (other : Stage)
    (after : Session) : Prop where
  styles : other.styles = stage.styles
  today : other.options.today = stage.options.today
  locals : after.locals = session.locals
  resolve : ∀ child, stage.Reached (· = root) child → other.resolve? child = stage.resolve? child
  reads : ∀ component, stage.Reached (· = root) (.inline component) →
    ∀ field prop, component.view.get? field = some prop → prop.readsData →
      prop.resolve (other.context after none) = prop.resolve (stage.context session none)

variable {stage other : Stage} {session after : Session} {root : Child}

lemma Reached.of_resolve? {start : Child → Prop} {child : Child} {component : Component}
    (h : stage.Reached start child) (hcomponent : stage.resolve? child = some component) :
    stage.Reached start (.inline component) := by
  cases child with
  | «inline» written =>
    cases hcomponent
    exact h
  | reference reference =>
    obtain ⟨declared, hfound, rfl⟩ := Option.map_eq_some_iff.mp hcomponent
    exact .followed h hfound

/-- Inside an item, the same is drawn for what a child leads to. -/
theorem AgreesOn.draw_eq (h : stage.AgreesOn session root other after) {depth : Nat} {cue : Cue}
    (hcue : stage.Reached (· = root) cue.child) (hitem : cue.scope.item.isSome) :
    cue.draw (other.draw after depth) = cue.draw (stage.draw session depth) := by
  induction depth generalizing cue with
  | zero => rfl
  | succ depth ih =>
    rw [draw_succ, draw_succ, h.resolve _ hcue]
    cases hcomponent : stage.resolve? cue.child with
    | none => rfl
    | some component =>
      have hreached := hcue.of_resolve? hcomponent
      let site := stage.site session cue.scope component cue.id
      have hsite : other.site after cue.scope component cue.id
          = site.within (other.context after cue.scope.item) := by
        simp only [Stage.site, h.styles, h.locals]
        rfl
      obtain ⟨item, hsome⟩ := Option.isSome_iff_exists.mp hitem
      have hfields : ∀ field, (site.within (other.context after cue.scope.item)).value field
          = site.value field :=
        Site.value_within hsome hsome h.today (h.reads component hreached)
      dsimp only
      rw [hsite, Site.node_within hfields]
      refine Site.node_congr fun next hnext => ?_
      exact ih (.inner hreached (Site.contains_of_mem_cues hnext))
        (Site.isSome_item_of_mem_cues hitem hnext)

end Stage

end Wireframe
