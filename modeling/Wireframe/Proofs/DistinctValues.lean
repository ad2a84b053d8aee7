import Wireframe.Proofs.ShownValues

/-!
# Values of loaded documents

In a loaded document no object has a key twice. What is found in such data, what is written into it and
what components make of it is like this too; so are the values that controls write, and with them the
sessions that runs lead to (`Preview.hasDistinctKeys_run`).
-/

namespace Wireframe

namespace Json

variable {json value found : Json} {segment : String} {segments : List String}

lemma hasDistinctKeys_part? (h : json.hasDistinctKeys = true) (hfound : json.part? segment = some found) :
    found.hasDistinctKeys = true := by
  cases json with
  | object fields => exact hasDistinctKeys_of_get? h hfound
  | array items =>
    obtain ⟨i, -, hitem⟩ := Option.bind_eq_some_iff.mp hfound
    exact hasDistinctKeys_array.mp h _ (List.mem_of_getElem? hitem)
  | _ => cases hfound

lemma hasDistinctKeys_follow (h : json.hasDistinctKeys = true) (hfound : json.follow segments = some found) :
    found.hasDistinctKeys = true := by
  induction segments generalizing json with
  | nil =>
    cases hfound
    exact h
  | cons segment segments ih =>
    obtain ⟨part, hpart, hfound⟩ := Option.bind_eq_some_iff.mp hfound
    exact ih (hasDistinctKeys_part? h hpart) hfound

lemma hasDistinctKeys_lookup {path : Path} (h : json.hasDistinctKeys = true)
    (hfound : json.lookup path = some found) : found.hasDistinctKeys = true :=
  hasDistinctKeys_follow h hfound

lemma hasDistinctKeys_writeField {change : Json → Json}
    (hchange : ∀ inner, inner.hasDistinctKeys = true → (change inner).hasDistinctKeys = true)
    {fields : Entries Json} (h : (object fields).hasDistinctKeys = true) (key : String) :
    (writeField change fields key).hasDistinctKeys = true := by
  refine hasDistinctKeys_insert h (hchange _ ?_)
  cases hfield : fields.get? key with
  | none => rfl
  | some inner => exact hasDistinctKeys_of_get? h hfield

lemma hasDistinctKeys_write (hvalue : value.hasDistinctKeys = true) (segments : List String)
    (h : json.hasDistinctKeys = true) : (write value segments json).hasDistinctKeys = true := by
  induction segments generalizing json with
  | nil => exact hvalue
  | cons segment segments ih =>
    cases json with
    | object fields => exact hasDistinctKeys_writeField (fun _ => ih) h segment
    | array items =>
      have hitems := hasDistinctKeys_array.mp h
      simp only [write]
      split
      · next i item hpart =>
        obtain ⟨j, -, hitem⟩ := Option.bind_eq_some_iff.mp hpart
        obtain ⟨found, hfound, heq⟩ := Option.map_eq_some_iff.mp hitem
        cases heq
        refine hasDistinctKeys_array.mpr fun other hother => ?_
        rcases List.mem_or_eq_of_mem_set hother with hmem | rfl
        · exact hitems other hmem
        · exact ih (hitems item (List.mem_of_getElem? hfound))
      · exact hasDistinctKeys_writeField (fun _ => ih) rfl segment
    | null | bool _ | number _ | string _ => exact hasDistinctKeys_writeField (fun _ => ih) rfl segment

lemma hasDistinctKeys_assign (hvalue : value.hasDistinctKeys = true) (h : json.hasDistinctKeys = true)
    (path : Path) : (json.assign path value).hasDistinctKeys = true :=
  hasDistinctKeys_write hvalue path.segments h

end Json

/-! ### Bindings and props -/

/-- Whether the data that bindings can see has no repeated keys. -/
structure Context.HasDistinctKeys (context : Context) : Prop where
  sampleData : context.sampleData.hasDistinctKeys = true
  state : context.state.hasDistinctKeys = true
  item : ∀ item ∈ context.item, item.hasDistinctKeys = true

lemma Binding.hasDistinctKeys_convert {context : Context} {value : Json}
    (h : value.hasDistinctKeys = true) (converter : Option String) :
    (convert context value converter).hasDistinctKeys = true := by
  simp only [convert]
  split
  · next converter _ =>
    cases converter with
    | relativeDate =>
      simp only [Converter.apply]
      split
      · rfl
      · exact h
    | completedToStrikethrough => rfl
    | invertBool => rfl
    | toUpper =>
      simp only [Converter.apply]
      split
      · rfl
      · exact h
  · exact h

namespace Context.HasDistinctKeys

variable {context : Context} (h : context.HasDistinctKeys) {value : Json}
include h

lemma follow (hvalue : value.hasDistinctKeys = true) :
    (Binding.follow context value).hasDistinctKeys = true := by
  simp only [Binding.follow]
  split
  · next inner hinner =>
    obtain ⟨path, -, hfound⟩ := Option.bind_eq_some_iff.mp hinner
    exact Json.hasDistinctKeys_lookup h.sampleData hfound
  · exact hvalue

lemma resolve (binding : Binding) : (binding.resolve context).hasDistinctKeys = true := by
  simp only [Binding.resolve]
  cases hlookup : binding.lookup context with
  | none => rfl
  | some value =>
    cases binding with
    | literal text =>
      cases hlookup
      rfl
    | sampleData path source =>
      obtain ⟨found, hfound, rfl⟩ := Option.map_eq_some_iff.mp hlookup
      exact h.follow (Json.hasDistinctKeys_lookup h.sampleData hfound)
    | state path source =>
      obtain ⟨found, hfound, rfl⟩ := Option.map_eq_some_iff.mp hlookup
      exact h.follow (Json.hasDistinctKeys_lookup h.state hfound)
    | item path converter source =>
      obtain ⟨found, hfound, rfl⟩ := Option.map_eq_some_iff.mp hlookup
      refine Binding.hasDistinctKeys_convert (Json.hasDistinctKeys_lookup ?_ hfound) converter
      cases hitem : context.item with
      | none => exact h.state
      | some item => exact h.item item hitem

lemma resolve_prop {prop : PropValue} (hprop : prop.IsRead) :
    (prop.resolve context).hasDistinctKeys = true := by
  cases prop with
  | binding binding => exact h.resolve binding
  | value json =>
    rcases hprop with ⟨value, hvalue, heq⟩ | ⟨text, heq⟩
    · cases value <;> cases heq <;> exact hvalue
    · cases heq

end Context.HasDistinctKeys

/-! ### Components -/

lemma Choice.hasDistinctKeys_ofJson {item : Json} (h : item.hasDistinctKeys = true)
    (labelKey valueKey : String) : (ofJson labelKey valueKey item).value.hasDistinctKeys = true := by
  cases item with
  | object fields =>
    simp only [ofJson]
    cases hvalue : Entries.get? fields valueKey with
    | none => exact h
    | some value => exact Json.hasDistinctKeys_of_get? h hvalue
  | _ => exact h

/-- The item that a part brings for what is drawn in it. -/
def Part.item? : Part → Option Json
  | framed _ item _ _ => item
  | _ => none

namespace Site

variable {site : Site}

lemma mem_items_of_listParts {part : Part} (hpart : part ∈ site.listParts) :
    ∀ item ∈ part.item?, item ∈ site.items := by
  have hslot : ∀ (framed : Prop) [Decidable framed] (slot : Slot),
      part ∈ (if framed then site.slotParts slot else []) → part.item? = none := by
    intro framed _ slot hpart
    split at hpart
    · obtain ⟨child, -, rfl⟩ := Option.map_eq_some_iff.mp (Option.mem_toList.mp hpart)
      rfl
    · cases hpart
  intro item hitem
  simp only [listParts] at hpart
  rcases List.mem_append.mp hpart with hpart | hfooter
  · rcases List.mem_append.mp hpart with hheader | hpart
    · rw [hslot _ _ hheader] at hitem
      cases hitem
    · split at hpart
      · obtain ⟨child, -, rfl⟩ := Option.map_eq_some_iff.mp (Option.mem_toList.mp hpart)
        cases hitem
      · obtain ⟨i, hi, rfl⟩ := List.mem_mapIdx.mp hpart
        simp only [itemPart] at hitem
        split at hitem
        · cases hitem
          exact List.getElem_mem hi
        · cases hitem
  · rw [hslot _ _ hfooter] at hitem
    cases hitem

lemma item?_of_mem_childParts {part : Part} (hpart : part ∈ site.childParts) : part.item? = none := by
  obtain ⟨i, hi, rfl⟩ := List.mem_mapIdx.mp hpart
  rfl

/-- What a component brings as items is in its list. -/
lemma mem_items_of_parts {part : Part} (hpart : part ∈ site.parts) :
    ∀ item ∈ part.item?, item ∈ site.items := by
  intro item hitem
  simp only [parts] at hpart
  have hchild : part ∉ site.childParts := by
    intro hpart
    rw [item?_of_mem_childParts hpart] at hitem
    cases hitem
  split at hpart
  · rcases List.mem_append.mp hpart with hslot | hpart
    · obtain ⟨child, -, rfl⟩ := Option.map_eq_some_iff.mp (Option.mem_toList.mp hslot)
      cases hitem
    · exact absurd hpart hchild
  · exact absurd hpart hchild
  · exact absurd hpart hchild
  · exact absurd hpart hchild
  · exact absurd hpart hchild
  · exact mem_items_of_listParts hpart item hitem
  · obtain ⟨child, -, rfl⟩ := Option.map_eq_some_iff.mp (Option.mem_toList.mp hpart)
    cases hitem
  · split at hpart
    · exact absurd hpart hchild
    · cases hpart
  · cases hpart

lemma item_of_mem_cues {cue : Cue} (h : cue ∈ site.cues) :
    ∀ item ∈ cue.scope.item, item ∈ site.items ∨ item ∈ site.scope.item := by
  intro item hitem
  have hhanded : site.handed.item = site.scope.item := by
    simp only [handed]
    split <;> rfl
  obtain ⟨part, hpart, hcue⟩ := List.mem_filterMap.mp h
  cases part with
  | child content id =>
    cases hcue
    exact .inr (hhanded ▸ hitem)
  | framed frame own content id =>
    cases hcue
    rcases Option.or_eq_some_iff.mp hitem with hown | ⟨-, hscope⟩
    · exact .inl (mem_items_of_parts hpart item hown)
    · exact .inr (hhanded ▸ hscope)
  | plain node => cases hcue

/-- What the node of a component writes is the value of a switch, the own value of a radio button, or
an option. -/
lemma writes_node {draw : Draw} {interaction : Interaction} {target : Target} {value : Json}
    (h : (site.node draw).interaction = some interaction) (hwrites : interaction.Writes target value) :
    (∃ b, value = .bool b) ∨ value = site.value .value
      ∨ ∃ choice ∈ site.choices, value = choice.value := by
  cases control_node (Node.target?_of_writes h hwrites) with
  | textField _ hinteraction =>
    rw [h] at hinteraction
    cases hinteraction
    cases hwrites
  | picker _ _ hinteraction =>
    rw [h] at hinteraction
    cases hinteraction
    obtain ⟨choice, hchoice, heq⟩ := List.mem_map.mp hwrites.2
    exact .inr (.inr ⟨choice, hchoice, heq.symm⟩)
  | toggle _ hinteraction =>
    rw [h] at hinteraction
    cases hinteraction
    exact .inl ⟨_, hwrites.2⟩
  | radio _ hinteraction =>
    rw [h] at hinteraction
    cases hinteraction
    exact .inr (.inl hwrites.2)

variable (h : (Child.inline site.component).AllRead) (hcontext : site.context.HasDistinctKeys)
include h hcontext

lemma hasDistinctKeys_value (field : Field) : (site.value field).hasDistinctKeys = true := by
  simp only [value]
  cases hprop : site.prop? field with
  | none => rfl
  | some prop =>
    obtain ⟨key, hmem⟩ := View.mem_of_get? hprop
    cases h with
    | «inline» props _ _ _ => exact hcontext.resolve_prop (props _ hmem)

lemma hasDistinctKeys_choices : ∀ choice ∈ site.choices, choice.value.hasDistinctKeys = true := by
  intro choice hchoice
  have hoptions := hasDistinctKeys_value h hcontext .options
  simp only [choices, Choice.list] at hchoice
  split at hchoice
  · next items hitems =>
    rw [hitems] at hoptions
    obtain ⟨item, hitem, rfl⟩ := List.mem_map.mp hchoice
    exact Choice.hasDistinctKeys_ofJson (Json.hasDistinctKeys_array.mp hoptions item hitem) _ _
  · cases hchoice

lemma hasDistinctKeys_items : ∀ item ∈ site.items, item.hasDistinctKeys = true := by
  intro item hitem
  have hitems := hasDistinctKeys_value h hcontext .items
  simp only [items] at hitem
  cases hlist : site.value .items with
  | array list =>
    rw [hlist] at hitems hitem
    exact Json.hasDistinctKeys_array.mp hitems item hitem
  | _ => rw [hlist] at hitem; cases hitem

end Site

/-! ### Sessions -/

/-- Whether the values of a session have no repeated keys. -/
structure Session.HasDistinctKeys (session : Session) : Prop where
  values : session.values.hasDistinctKeys = true
  locals : ∀ entry ∈ session.locals, entry.2.hasDistinctKeys = true

namespace Session.HasDistinctKeys

variable {session : Session} {document : Document}

lemma value? (h : session.HasDistinctKeys) {target : Target} {value : Json}
    (hvalue : session.value? target = some value) : value.hasDistinctKeys = true := by
  cases target with
  | state key => exact Json.hasDistinctKeys_lookup h.values hvalue
  | «local» key => exact h.locals _ (Entries.mem_of_get? hvalue)

lemma setValue (h : session.HasDistinctKeys) (target : Target) {value : Json}
    (hvalue : value.hasDistinctKeys = true) : (session.setValue target value).HasDistinctKeys := by
  cases target with
  | state key => exact ⟨Json.hasDistinctKeys_assign hvalue h.values _, h.locals⟩
  | «local» key =>
    refine ⟨h.values, fun entry hentry => ?_⟩
    rcases Entries.mem_insert hentry with rfl | hentry
    · exact hvalue
    · exact h.locals entry hentry

lemma setSnackbar (h : session.HasDistinctKeys) (visible : Bool) :
    (session.setSnackbar visible).HasDistinctKeys := by
  refine ⟨?_, h.locals⟩
  simp only [Session.setSnackbar]
  split
  · exact Json.hasDistinctKeys_assign rfl h.values _
  · exact h.values

/-- A session keeps having no repeated keys as long as no value is written that has some. -/
lemma log {last : Session} {events : List Event} (hlog : Session.Log document session events last)
    (hwritten : ∀ target value, .valueChanged target value ∈ events → value.hasDistinctKeys = true)
    (h : session.HasDistinctKeys) : last.HasDistinctKeys := by
  induction hlog with
  | nil => exact h
  | cons step _ ih =>
    refine ih (fun target value hmem => hwritten target value (List.mem_cons_of_mem _ hmem)) ?_
    cases step with
    | showSnackbar _ => exact h.setSnackbar true
    | hideSnackbar _ => exact h.setSnackbar false
    | write _ => exact h.setValue _ (hwritten _ _ List.mem_cons_self)
    | _ => exact ⟨h.values, h.locals⟩

end Session.HasDistinctKeys

/-- The data of a loaded document has no repeated keys. -/
lemma Document.Loaded.hasDistinctKeys_data {document : Document} (h : document.Loaded) :
    document.sampleData.hasDistinctKeys = true ∧ document.state.hasDistinctKeys = true := by
  obtain ⟨json, hjson, hload⟩ := h
  have hdata : ∀ section? : Option Json, (∀ json ∈ section?, json.hasDistinctKeys = true) →
      (readData section?).hasDistinctKeys = true := by
    intro section? hsection
    simp only [readData]
    split
    · exact hsection _ rfl
    · rfl
  cases json with
  | object root =>
    obtain ⟨declared, tabs, -, -, rfl⟩ := ofJson?_eq_ok.mp hload
    exact ⟨hdata _ fun _ => Json.hasDistinctKeys_of_get? hjson,
      hdata _ fun _ => Json.hasDistinctKeys_of_get? hjson⟩
  | _ => cases hload

lemma Document.Loaded.hasDistinctKeys_initial {document : Document} (h : document.Loaded) :
    (Session.initial document).HasDistinctKeys := by
  refine ⟨?_, List.forall_mem_nil _⟩
  simp only [Session.initial]
  split
  · rfl
  · exact h.hasDistinctKeys_data.2

/-! ### Screens and runs -/

namespace Stage

variable {stage : Stage} {session : Session} (hloaded : stage.document.Loaded)
  (h : session.HasDistinctKeys)
include hloaded h

lemma hasDistinctKeys_context {item : Option Json} (hitem : ∀ value ∈ item, value.hasDistinctKeys = true) :
    (stage.context session item).HasDistinctKeys :=
  ⟨hloaded.hasDistinctKeys_data.1, h.values, hitem⟩

/-- However deep in lists, the item at hand has no repeated keys. -/
lemma Placed.hasDistinctKeys_item {depth : Nat} {cue : Cue} (hplaced : stage.Placed session depth cue) :
    ∀ item ∈ cue.scope.item, item.hasDistinctKeys = true := by
  induction hplaced with
  | begun hbegun => cases hbegun <;> exact nofun
  | @inner depth cue next component hplaced hcomponent hnext ih =>
    intro item hitem
    rcases Site.item_of_mem_cues hnext item hitem with hown | hscope
    · have hread := allRead_of_resolve? hloaded.allRead (Placed.allRead hloaded.allRead hplaced) hcomponent
      exact Site.hasDistinctKeys_items hread (hasDistinctKeys_context hloaded h ih) item hown
    · exact ih item hscope

/-- What a node of a screen writes has no repeated keys. -/
theorem hasDistinctKeys_of_writes {n : Node} (hn : n ∈ (stage.screen session).preorder)
    {interaction : Interaction} (hinteraction : n.interaction = some interaction) {target : Target}
    {value : Json} (hwrites : interaction.Writes target value) : value.hasDistinctKeys = true := by
  obtain ⟨depth, cue, component, hplaced, hread, draw, rfl⟩ :=
    exists_site_of_target? hloaded.allRead hn (Node.target?_of_writes hinteraction hwrites)
  have hcontext := hasDistinctKeys_context hloaded h (Placed.hasDistinctKeys_item hloaded h hplaced)
  rcases Site.writes_node hinteraction hwrites with ⟨b, rfl⟩ | rfl | ⟨choice, hchoice, rfl⟩
  · rfl
  · exact Site.hasDistinctKeys_value hread hcontext .value
  · exact Site.hasDistinctKeys_choices hread hcontext choice hchoice

end Stage

namespace Preview

/-- An operation on a preview of a loaded document writes no value with repeated keys. -/
lemma Current.hasDistinctKeys_written {preview : Preview} (h : preview.Current)
    (hloaded : preview.stage.document.Loaded) (hsession : preview.session.HasDistinctKeys)
    {operation : Operation} {target : Target} {value : Json}
    (hevent : .valueChanged target value ∈ (preview.apply operation).2) :
    value.hasDistinctKeys = true := by
  have htold : ∀ {interaction}, preview.stage.Told interaction (.valueChanged target value) →
      interaction.Writes target value := by
    intro interaction htold
    cases htold with
    | plain hplain => cases hplain
    | written hwrites => exact hwrites
  cases source_apply hevent with
  | plain hplain => cases hplain
  | invoked hinvoked => cases htold hinvoked
  | activated hinteraction hactivated =>
    obtain ⟨n, hfind, hinteraction⟩ := Option.bind_eq_some_iff.mp hinteraction
    have hn := Node.mem_of_find? hfind
    rw [h.screen] at hn
    exact Stage.hasDistinctKeys_of_writes hloaded hsession hn hinteraction (htold hactivated)
  | typed _ => rfl

lemma Current.hasDistinctKeys_apply {preview : Preview} (h : preview.Current)
    (hloaded : preview.stage.document.Loaded) (hsession : preview.session.HasDistinctKeys)
    (operation : Operation) : (preview.apply operation).1.session.HasDistinctKeys :=
  .log (preview.log_apply operation) (fun _ _ => h.hasDistinctKeys_written hloaded hsession) hsession

/-- After any run on a loaded document, no value of the session has a key twice. -/
theorem hasDistinctKeys_run {stage : Stage} (hloaded : stage.document.Loaded) {canvas : Canvas}
    {first : Preview} (h : mount (some canvas) stage = .ok first) (operations : List Operation) :
    (first.run operations).1.session.HasDistinctKeys := by
  obtain ⟨hstage, hactivity, -⟩ := eq_of_mount h
  have hinitial : first.session = Session.initial stage.document := by
    rw [session, hactivity, Stage.session_start]
  refine (@run_induction first (fun last => last.stage = stage ∧ last.Current
    ∧ last.session.HasDistinctKeys) ?_ ⟨hstage, current_of_mount h, ?_⟩ operations).2.2
  · rintro last operation ⟨rfl, hcurrent, hsession⟩
    exact ⟨last.stage_apply operation, hcurrent.apply operation,
      hcurrent.hasDistinctKeys_apply hloaded hsession operation⟩
  · rw [hinitial]
    exact hloaded.hasDistinctKeys_initial

end Preview

end Wireframe
