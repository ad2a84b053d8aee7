import Wireframe.Proofs.Addresses
import Wireframe.Proofs.Replay
import Wireframe.Proofs.ShownValues

/-!
# Turning and choosing

What a toggle or a radio button writes is shown by all controls that write to the same place. So a
toggle that is activated is turned, and turned back by another time, and of the radio buttons of a
group those are selected that have the value of the activated one (`Preview.flips_run`).
-/

namespace Wireframe

/-- What activating a toggle writes turns the value that it shows. -/
lemma Site.eq_of_isOn? {site : Site} {draw : Draw} {interaction : Interaction} {target : Target}
    {value : Json} {on : Bool} (hinteraction : (site.node draw).interaction = some interaction)
    (hwrites : interaction.Writes target value) (hon : (site.node draw).isOn? = some on) :
    value = .bool !on := by
  cases control_node (Node.target?_of_writes hinteraction hwrites) with
  | toggle hwidget htoggle =>
    simp only [Node.isOn?, hwidget] at hon
    rw [hinteraction] at htoggle
    cases htoggle
    cases hon
    exact hwrites.2
  | textField hwidget _ | picker hwidget _ _ | radio hwidget _ =>
    simp only [Node.isOn?, hwidget] at hon
    cases hon

/-- Where a radio button writes, and its value, if that is a text. -/
def Node.radioText? (node : Node) : Option (Target × String) :=
  match node.interaction with
  | some (.selectRadio target (.string text)) => some (target, text)
  | _ => none

lemma Node.interaction_of_radioText? {node : Node} {target : Target} {text : String}
    (h : node.radioText? = some (target, text)) :
    node.interaction = some (.selectRadio target (.string text)) := by
  unfold radioText? at h
  split at h
  · next hinteraction =>
    cases h
    exact hinteraction
  · cases h

namespace Preview

variable {preview : Preview} {n : Node} {target : Target} {value : Json}

/-- Activating a node that only tells of a value writes this value, and the node is one that writes
it. -/
lemma Current.writes (h : preview.Current) (hloaded : preview.stage.document.Loaded)
    (hn : n ∈ preview.screen.preorder)
    (hevents : (preview.activate n.id).2 = [.valueChanged target value]) :
    ∃ interaction, n.interaction = some interaction ∧ interaction.Writes target value := by
  have hsource : preview.Source (.activate n.id) (.valueChanged target value) :=
    source_apply (hevents ▸ List.mem_singleton_self _)
  cases hsource with
  | plain hplain => cases hplain
  | @activated _ interaction _ hinteraction htold =>
    rw [(h.interaction?_eq hloaded hn).2] at hinteraction
    cases htold with
    | plain hplain => cases hplain
    | written hwrites => exact ⟨interaction, hinteraction, hwrites⟩

/-- After such an activation, the controls that write to the same place show the value. -/
lemma Current.shows_written (h : preview.Current) (hloaded : preview.stage.document.Loaded)
    (hevents : (preview.activate n.id).2 = [.valueChanged target value])
    (hplain : ∀ rest, value ≠ .string ("@sampleData." ++ rest)) {m : Node}
    (hm : m ∈ (preview.activate n.id).1.screen.preorder) (htarget : m.target? = some target) :
    m.Shows value := by
  have hafter : (preview.activate n.id).1.Current := h.apply (.activate n.id)
  have hstage : (preview.activate n.id).1.stage = preview.stage := preview.stage_apply (.activate n.id)
  have hsession : (preview.activate n.id).1.session = preview.session.setValue target value :=
    @session_apply_of_valueChanged preview (.activate n.id) target value hevents
  have hvalue : (preview.activate n.id).1.session.value? target = some value := by
    rw [hsession, Session.value?_setValue]
  rw [hafter.screen, hstage] at hm
  have hshown := Stage.shows_of_value? hloaded.allRead hm htarget hvalue
  rwa [Stage.shownFor_eq_self fun rest hrest => absurd hrest (hplain rest)] at hshown

/-- Activating a toggle turns all toggles that write to the same place. -/
lemma Current.turned (h : preview.Current) (hloaded : preview.stage.document.Loaded)
    (hn : n ∈ preview.screen.preorder)
    (hevents : (preview.activate n.id).2 = [.valueChanged target value]) {on : Bool}
    (hon : n.isOn? = some on) {m : Node} (hm : m ∈ (preview.activate n.id).1.screen.preorder)
    (htarget : m.target? = n.target?) (htoggle : m.isOn?.isSome) : m.isOn? = some (!on) := by
  obtain ⟨interaction, hinteraction, hwrites⟩ := h.writes hloaded hn hevents
  have hown := Node.target?_of_writes hinteraction hwrites
  obtain rfl : value = .bool !on := by
    rw [h.screen] at hn
    obtain ⟨_, _, _, -, -, _, rfl⟩ := Stage.exists_site_of_target? hloaded.allRead hn hown
    exact Site.eq_of_isOn? hinteraction hwrites hon
  obtain ⟨shown, hshown⟩ := Option.isSome_iff_exists.mp htoggle
  have hshows := h.shows_written hloaded hevents nofun hm (htarget.trans hown)
  rw [hshown, hshows.isOn? hshown]
  rfl

/-- After any run, activating a toggle turns all toggles that write to the same place, if it does
nothing else, and another such activation turns them back. Activating a radio button selects just those
buttons that write to the same place and have an equal value, unless the value refers to sample
data. -/
theorem flips_run {stage : Stage} (hloaded : stage.document.Loaded) {canvas : Canvas}
    {first : Preview} (h : mount (some canvas) stage = .ok first) (operations : List Operation)
    (hn : n ∈ (first.run operations).1.screen.preorder)
    (hevents : ((first.run operations).1.activate n.id).2 = [.valueChanged target value]) :
    let after := ((first.run operations).1.activate n.id).1
    (∀ on, n.isOn? = some on → ∀ m ∈ after.screen.preorder, m.target? = n.target? →
        m.isOn?.isSome → m.isOn? = some (!on)
          ∧ ∀ place again, (after.activate m.id).2 = [.valueChanged place again] →
            ∀ last ∈ (after.activate m.id).1.screen.preorder, last.target? = n.target? →
              last.isOn?.isSome → last.isOn? = some on)
      ∧ ∀ place own, n.interaction = some (.selectRadio place own) →
        (∀ rest, own ≠ .string ("@sampleData." ++ rest)) →
          ∀ m ∈ after.screen.preorder, ∀ other selected,
            m.interaction = some (.selectRadio place other) → m.isSelected? = some selected →
              selected = (own == other) := by
  intro after
  have hcurrent := (current_of_mount h).run operations
  have hstage := stage_run_of_mount h operations
  have hloaded' : (first.run operations).1.stage.document.Loaded := hstage ▸ hloaded
  have hafter : after.Current := hcurrent.apply (.activate n.id)
  have hafterLoaded : after.stage.document.Loaded :=
    (stage_apply _ (.activate n.id)).symm ▸ hloaded'
  refine ⟨fun on hon m hm htarget htoggle => ?_, fun place own hradio hplain m hm other => ?_⟩
  · have hturned := hcurrent.turned hloaded' hn hevents hon hm htarget htoggle
    refine ⟨hturned, fun place again hagain last hlast hlastTarget hlastToggle => ?_⟩
    have hback := hafter.turned hafterLoaded hm hagain hturned hlast
      (hlastTarget.trans htarget.symm) hlastToggle
    rwa [Bool.not_not] at hback
  · obtain ⟨interaction, hinteraction, hwrites⟩ := hcurrent.writes hloaded' hn hevents
    rw [hradio, Option.some_inj] at hinteraction
    subst hinteraction
    obtain ⟨rfl, rfl⟩ := hwrites
    intro selected hother hselected
    exact (hcurrent.shows_written hloaded' hevents hplain hm
      (Node.target?_of_interaction hother)).isSelected? hselected hother

/-- A switch that is turned off and on again, and a radio button deep in a group that is chosen in place
of another one. -/
theorem flips_run_settings :
    ∃ document first,
      document.Loaded
        ∧ mount (some {}) { document, options := { now := 0 } } = .ok first
        ∧ (let before := (first.run [.activate "screen/page/0/3", .activate "screen/page/0/2/0"]).1
          (∃ n m last, n ∈ before.screen.preorder ∧ n.isOn? = some true
            ∧ m ∈ (before.activate n.id).1.screen.preorder ∧ m.isOn? = some false
            ∧ last ∈ ((before.activate n.id).1.activate n.id).1.screen.preorder
            ∧ last.isOn? = some true)
          ∧ ∃ n m, n ∈ before.screen.preorder
            ∧ n.interaction = some (.selectRadio (.local "screen/page/0/2") (.string "weekly"))
            ∧ m ∈ (before.activate n.id).1.screen.preorder
            ∧ m.interaction = some (.selectRadio (.local "screen/page/0/2") (.string "daily"))
            ∧ m.isSelected? = some false) := by
  obtain ⟨document, first, hload, hmount, htoggles, hradios⟩ : ∃ document first,
      Document.ofJson? Json.settings = .ok document
        ∧ mount (some {}) { document, options := { now := 0 } } = .ok first
        ∧ (let before := (first.run [.activate "screen/page/0/3", .activate "screen/page/0/2/0"]).1
          let after := before.activate "screen/page/0/0"
          let last := after.1.activate "screen/page/0/0"
          (before.screen.find? "screen/page/0/0").map (fun n => (n.isOn?, n.target?))
              = some (some true, some (.state "remind"))
            ∧ after.2.map Event.target? = [some (.state "remind")]
            ∧ (after.1.screen.find? "screen/page/0/0").map (fun n => (n.isOn?.isSome, n.target?))
              = some (true, some (.state "remind"))
            ∧ last.2.map Event.target? = [some (.state "remind")]
            ∧ (last.1.screen.find? "screen/page/0/0").map (fun n => (n.isOn?.isSome, n.target?))
              = some (true, some (.state "remind")))
        ∧ (let before := (first.run [.activate "screen/page/0/3", .activate "screen/page/0/2/0"]).1
          let after := before.activate "screen/page/0/2/1/0"
          (before.screen.find? "screen/page/0/2/1/0").bind Node.radioText?
              = some (.local "screen/page/0/2", "weekly")
            ∧ after.2.map Event.target? = [some (.local "screen/page/0/2")]
            ∧ (after.1.screen.find? "screen/page/0/2/0").map
                (fun n => (n.radioText?, n.isSelected?.isSome))
              = some (some (.local "screen/page/0/2", "daily"), true)) :=
    ⟨_, _, rfl, rfl, by decide +kernel, by decide +kernel⟩
  have hloaded : document.Loaded := ⟨Json.settings, rfl, hload⟩
  refine ⟨document, first, hloaded, hmount, ?_, ?_⟩
  · obtain ⟨hbefore, hevents, hafter, hagain, hlast⟩ := htoggles
    obtain ⟨n, hfind, hn⟩ := Option.map_eq_some_iff.mp hbefore
    obtain ⟨m, hfound, hm⟩ := Option.map_eq_some_iff.mp hafter
    obtain ⟨last, hlast, hl⟩ := Option.map_eq_some_iff.mp hlast
    obtain ⟨hon, htarget⟩ := Prod.mk.inj hn
    obtain ⟨hmon, hmtarget⟩ := Prod.mk.inj hm
    obtain ⟨hlon, hltarget⟩ := Prod.mk.inj hl
    obtain ⟨value, hevents⟩ := Event.exists_of_map_target? hevents
    obtain ⟨again, hagain⟩ := Event.exists_of_map_target? hagain
    have hsame : m.id = n.id := (Node.id_of_find? hfound).trans (Node.id_of_find? hfind).symm
    rw [← Node.id_of_find? hfind] at hevents hfound hagain hlast
    have hmem := Node.mem_of_find? hfind
    obtain ⟨hturned, hback⟩ :=
      (@flips_run n _ value { document, options := { now := 0 } } hloaded _ _ hmount _ hmem
        hevents).1 true hon m (Node.mem_of_find? hfound) (hmtarget.trans htarget.symm) hmon
    rw [hsame] at hback
    exact ⟨n, m, last, hmem, hon, Node.mem_of_find? hfound, hturned, Node.mem_of_find? hlast,
      hback _ again hagain last (Node.mem_of_find? hlast) (hltarget.trans htarget.symm) hlon⟩
  · obtain ⟨hbefore, hevents, hafter⟩ := hradios
    obtain ⟨n, hfind, hn⟩ := Option.bind_eq_some_iff.mp hbefore
    obtain ⟨m, hfound, hm⟩ := Option.map_eq_some_iff.mp hafter
    obtain ⟨hm, hselected⟩ := Prod.mk.inj hm
    have hchosen := Node.interaction_of_radioText? hn
    have hother := Node.interaction_of_radioText? hm
    obtain ⟨selected, hselected⟩ := Option.isSome_iff_exists.mp hselected
    obtain ⟨value, hevents⟩ := Event.exists_of_map_target? hevents
    rw [← Node.id_of_find? hfind] at hevents hfound
    have hmem := Node.mem_of_find? hfind
    refine ⟨n, m, hmem, hchosen, Node.mem_of_find? hfound, hother, ?_⟩
    have hplain : ∀ rest, Json.string "weekly" ≠ .string ("@sampleData." ++ rest) :=
      Json.string_ne_reference (by decide)
    rw [hselected, (@flips_run n _ value { document, options := { now := 0 } } hloaded _ _ hmount _
      hmem hevents).2 _ _ hchosen hplain m (Node.mem_of_find? hfound) _ selected hother hselected]
    rfl

end Preview

end Wireframe
