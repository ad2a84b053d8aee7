import Wireframe.Proofs.PageIsolation
import Wireframe.Proofs.Replay

/-!
# Local writes

Writing a value that is kept for a node changes nothing on the screen but what is shown of that value:
the screens before and after match node by node (`Stage.matches_screen`), and a control that shows the
value is the node itself or below it. So all nodes elsewhere stay as they are, and of the session only
the local values are touched (`Preview.locality_run`).
-/

namespace Wireframe

namespace Node

/-- A node by itself, without what is below it. -/
def alone (node : Node) : Node :=
  { node with children := [] }

lemma AllMatchBut.append {key : String} {nodes others more others' : List Node}
    (h : AllMatchBut key nodes others) (h' : AllMatchBut key more others') :
    AllMatchBut key (nodes ++ more) (others ++ others') := by
  induction nodes generalizing others with
  | nil =>
    cases h
    exact h'
  | cons node nodes ih =>
    cases h with
    | cons head rest => exact .cons head (ih rest)

/-- What shows another value is alike in nothing less than all its own fields. -/
lemma AlikeBut.alone_eq {key : String} {node other : Node} (h : node.AlikeBut key other)
    (hkey : node.target? ≠ some (.local key)) : other.alone = node.alone := by
  obtain ⟨hwidget, hinteraction⟩ := h.same fun htarget => absurd htarget hkey
  simp only [alone, h.id, h.attributes, h.cell, hwidget, hinteraction]

end Node

namespace Stage

variable {stage : Stage} {session other : Session} {key : String}

/-! ### Screens -/

/-- Below its button, a popup is drawn from the same parts in every session. -/
lemma exists_parts_popup {popupId : String} {component : Component}
    (hfound : stage.document.component? popupId = some component) :
    ∃ parts footer : List Part, ∀ session, (stage.popup session popupId).children = closeButton
      :: (parts.map (Part.draw (stage.draw session (maxDepth - 1)) {})
        ++ footer.map (Part.draw (stage.draw session (maxDepth - 1)) { inPopupFooter := true })) := by
  let site (session : Session) := stage.site session {} component (screenId ++ "/popup")
  let footer (session : Session) := { site session with scope := { inPopupFooter := true } }
  refine ⟨(site stage.start.session).slotParts .content ++ (site stage.start.session).childParts,
    (footer stage.start.session).slotParts .footer, fun session => ?_⟩
  have hcontent := (site session).map_slotParts (stage.draw session (maxDepth - 1)) .content
  have hfooter := (footer session).map_slotParts (stage.draw session (maxDepth - 1)) .footer
  have hchildren := (site session).map_childParts (stage.draw session (maxDepth - 1)) {}
  simp only [popup, hfound]
  rw [List.map_append]
  exact congrArg (closeButton :: ·)
    (congrArg₂ (· ++ ·) (congrArg₂ (· ++ ·) hcontent.symm hchildren.symm) hfooter.symm)

/-- Popups of sessions that agree but for a local value match but for what is shown of it. -/
lemma matches_popup (h : session.AgreesBut key other) (popupId : String) :
    Node.MatchesBut key (stage.popup session popupId) (stage.popup other popupId) := by
  cases hfound : stage.document.component? popupId with
  | none =>
    simp only [popup, hfound]
    exact .refl key _
  | some component =>
    have hown : (stage.popup session popupId).AlikeBut key (stage.popup other popupId) := by
      have htitle : ∀ component id, (stage.site other {} component id).text? .title
          = (stage.site session {} component id).text? .title := by
        intro component id
        simp only [Site.text?, Site.prop?, site, context, h.values]
      simp only [popup, hfound, Node.withAttributes, Node.popup, htitle]
      exact .of_eq rfl rfl rfl rfl rfl
    have hparts : ∀ (inPopupFooter : Bool) (parts : List Part), Node.AllMatchBut key
        (parts.map (Part.draw (stage.draw session (maxDepth - 1)) { inPopupFooter }))
        (parts.map (Part.draw (stage.draw other (maxDepth - 1)) { inPopupFooter })) :=
      fun inPopupFooter => Node.AllMatchBut.map (matches_part (matches_draw h) ⟨rfl, rfl, .none⟩)
    refine .node hown ?_
    obtain ⟨parts, footer, hchildren⟩ := exists_parts_popup hfound
    rw [hchildren, hchildren]
    exact .cons (.refl key _) ((hparts false _).append (hparts true _))

lemma snackbar?_congr (h : other.values = session.values) :
    stage.snackbar? other = stage.snackbar? session := by
  simp only [snackbar?, site, context, h]
  rfl

/-- Screens of sessions that agree but for a local value match but for what is shown of it. -/
theorem matches_screen (h : session.AgreesBut key other) (hpopup : other.openPopup = session.openPopup)
    (hsnackbar : other.snackbarVisible = session.snackbarVisible) :
    Node.MatchesBut key (stage.screen session) (stage.screen other) := by
  have htabBar : stage.tabBar other = stage.tabBar session := by
    simp only [tabBar, h.activeTab]
  refine .node (.of_eq rfl rfl rfl rfl rfl) ?_
  simp only [screen, hpopup, hsnackbar, htabBar, snackbar?_congr h.values]
  refine .append (.append (.append (.cons (matches_page h) .nil) (.refl key _)) ?_) (.refl key _)
  cases session.openPopup with
  | none => exact .nil
  | some popupId => exact .cons (matches_popup h popupId) .nil

/-- What is below a radio group of a screen goes on from the id of the group. -/
lemma extends_of_radioGroup {group n : Node} (hgroup : group ∈ (stage.screen session).preorder)
    (hradio : group.isRadioGroup) (hn : n ∈ group.preorder) : Extends group.id n.id := by
  obtain ⟨label, hwidget⟩ := hradio
  cases made_of_mem_screen hgroup with
  | fixture hfixture =>
    rw [Node.isFixture, hwidget] at hfixture
    cases hfixture
  | tooDeep _ => cases hwidget
  | component _ _ =>
    rw [Site.id_node]
    exact (Site.named_node _ (stage.names_draw session _)).within n hn

end Stage

namespace Preview

variable {operation : Operation} {key : String} {value : Json}

/-- After any run, an operation whose only event is that a local value was written leaves the ids of the
screen as they are, and all nodes but those whose ids are, or go on from, the key of the value. Nothing
else of the session changes. -/
theorem locality_run {canvas : Canvas} {stage : Stage} {first : Preview}
    (h : mount (some canvas) stage = .ok first) (operations : List Operation)
    (hevents : ((first.run operations).1.apply operation).2 = [.valueChanged (.local key) value]) :
    let before := (first.run operations).1
    let after := (before.apply operation).1
    after.screen.preorder.map Node.id = before.screen.preorder.map Node.id
      ∧ List.Forall₂ (fun n m => ¬ Extends key n.id → m.alone = n.alone)
        before.screen.preorder after.screen.preorder
      ∧ after.session = { before.session with locals := before.session.locals.insert key value } := by
  intro before after
  have hbefore : before.Current := (current_of_mount h).run operations
  have hafter : after.Current := hbefore.apply operation
  have hsession : after.session
      = { before.session with locals := before.session.locals.insert key value } :=
    session_apply_of_valueChanged hevents
  have hagrees : before.session.AgreesBut key after.session := by
    rw [hsession]
    exact ⟨rfl, rfl, fun id hid => Entries.get?_insert_of_ne _ _ hid.symm⟩
  have hmatches : List.Forall₂ (Node.AlikeBut key) before.screen.preorder after.screen.preorder := by
    rw [hbefore.screen, hafter.screen, before.stage_apply operation]
    exact (Stage.matches_screen hagrees (by rw [hsession]) (by rw [hsession])).preorder
  have howned : ∀ n ∈ before.screen.preorder, n.target? = some (.local key) → Extends key n.id := by
    intro n hn htarget
    rw [hbefore.screen] at hn
    rcases Stage.owner_of_mem_screen hn htarget with rfl | ⟨group, hgroup, hradio, rfl, hbelow⟩
    · exact .refl _
    · exact Stage.extends_of_radioGroup hgroup hradio hbelow
  refine ⟨?_, ?_, hsession⟩
  · symm
    refine List.forall₂_eq_eq_eq ▸ List.forall₂_map_left_iff.mpr (List.forall₂_map_right_iff.mpr ?_)
    exact hmatches.imp fun n m hn => hn.id.symm
  · refine ((List.forall₂_and_left _ _).mpr ⟨howned, hmatches⟩).imp fun n m hn helsewhere => ?_
    exact hn.2.alone_eq fun htarget => helsewhere (hn.1 htarget)

/-- Choosing a radio button deep in a group without a place in the state. -/
theorem locality_run_settings :
    ∃ document first value,
      Document.ofJson? Json.settings = .ok document
        ∧ mount (some {}) { document, options := { now := 0 } } = .ok first
        ∧ (let before := (first.run [.activate "screen/page/0/3"]).1
          let after := (before.apply (.activate "screen/page/0/2/1/0")).1
          (before.apply (.activate "screen/page/0/2/1/0")).2
              = [.valueChanged (.local "screen/page/0/2") value]
            ∧ after.screen.preorder.map Node.id = before.screen.preorder.map Node.id
            ∧ List.Forall₂ (fun n m => ¬ Extends "screen/page/0/2" n.id → m.alone = n.alone)
              before.screen.preorder after.screen.preorder
            ∧ after.session = { before.session with
                locals := before.session.locals.insert "screen/page/0/2" value }) := by
  obtain ⟨document, first, hload, hmount, hkeys⟩ : ∃ document first,
      Document.ofJson? Json.settings = .ok document
        ∧ mount (some {}) { document, options := { now := 0 } } = .ok first
        ∧ ((first.run [.activate "screen/page/0/3"]).1.apply
            (.activate "screen/page/0/2/1/0")).2.map Event.target?
          = [some (.local "screen/page/0/2")] :=
    ⟨_, _, rfl, rfl, by decide +kernel⟩
  obtain ⟨value, hevents⟩ := Event.exists_of_map_target? hkeys
  exact ⟨document, first, value, hload, hmount, hevents, locality_run hmount _ hevents⟩

end Preview

end Wireframe
