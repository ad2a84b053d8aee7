import Wireframe.Diagnostic.Inspection
import Wireframe.Proofs.CurrentScreen
import Wireframe.Proofs.DrawnNodes

/-!
# Degradations are reported

What cannot be drawn becomes a mark on the screen. The inspection goes over the same document without
following references, and comes by everything that a drawing can reach. So each mark of a reference
or of a type is explained by a diagnostic (`Preview.explains_run`).
-/

namespace Wireframe

/-- A type without props of its own is one of the frame around the pages, or not in the catalog. -/
lemma ComponentType.eq_unknown {type : ComponentType} (hform : type.form = .generic)
    (hpage : type ≠ .contentPage)
    (hknown : type.name ∉ ["Shell", "ShellContent", "TabBar", "Tab"]) :
    type = .unknown type.name := by
  cases type <;> simp_all [form, name]

/-- Whether a node stands for something that cannot be drawn. -/
def Node.isMark (node : Node) : Bool :=
  match node.widget with
  | .placeholder _ => true
  | .missing _ _ => true
  | _ => false

namespace Stage

variable (stage : Stage)

/-! ### Reports -/

/-- Whether the inspection comes by a place in a layout. -/
def Inspected (child : Child) : Prop :=
  ∃ location, stage.inspectChild location child ⊆ stage.inspect

/-- Whether some diagnostic has this message. -/
def Reports (message : String) : Prop :=
  ∃ diagnostic ∈ stage.inspect, diagnostic.message = message

/-- Whether it is reported if a child cannot be drawn, and what it contains is inspected. -/
def Covered : Child → Prop
  | .reference reference =>
    stage.document.component? reference.id = none →
      stage.Reports ("Reference to missing component '" ++ reference.id ++ "'")
  | .inline component =>
    (∀ name, component.type = .unknown name →
        stage.Reports ("Unknown component type '" ++ name ++ "'"))
      ∧ ∀ child, component.Contains child → stage.Inspected child

/-- Whether a node that stands for something that cannot be drawn is explained by a diagnostic. Four
types of the catalog have no picture, which is not reported. -/
structure Explains (n : Node) : Prop where
  missing : ∀ reference, n.widget = .missing reference .notFound →
    stage.Reports ("Reference to missing component '" ++ reference ++ "'")
  unknown : ∀ name, n.widget = .placeholder name →
    name ∉ ["Shell", "ShellContent", "TabBar", "Tab"] →
      stage.Reports ("Unknown component type '" ++ name ++ "'")

/-! ### What is inspected -/

lemma inspectComponent_eq (location : String) (component : Component) :
    stage.inspectComponent location component
      = located location (stage.componentFindings component)
        ++ stage.inspectPart (location ++ "/layout") component.layout
        ++ stage.inspectChildren (location ++ "/children/") 0 component.children
        ++ stage.inspectSlots location component.slots := by
  cases component
  rw [inspectComponent]

lemma inspectChildren_subset {child : Child} {children : List Child} (h : child ∈ children)
    (location : String) (index : Nat) :
    ∃ place, stage.inspectChild place child ⊆ stage.inspectChildren location index children := by
  induction children generalizing index with
  | nil => cases h
  | cons first children ih =>
    rw [inspectChildren]
    rcases List.mem_cons.mp h with rfl | h
    · exact ⟨_, List.subset_append_left _ _⟩
    · obtain ⟨place, hsubset⟩ := ih h (index + 1)
      exact ⟨place, List.Subset.trans hsubset (List.subset_append_right _ _)⟩

lemma inspectSlots_subset {child : Child} {slots : Slots Child} {slot : Slot}
    (h : slots.get? slot = some child) (location : String) :
    stage.inspectChild (location ++ "/" ++ slot.name) child
      ⊆ stage.inspectSlots location slots := by
  obtain ⟨content, header, footer, template, emptyView⟩ := slots
  intro diagnostic hmem
  cases slot <;> (cases h; simp [inspectSlots, inspectPart, hmem])

/-- The children that a layout brings are inspected where it is. -/
lemma inspectPart_subset {component : Component} {child : Child}
    (h : child ∈ component.layoutChildren) (location : String) :
    ∃ place, stage.inspectChild place child ⊆ stage.inspectPart location component.layout := by
  unfold Component.layoutChildren at h
  split at h
  · next layout hlayout =>
    obtain ⟨place, hsubset⟩ := stage.inspectChildren_subset h (location ++ "/children/") 0
    rw [hlayout, inspectPart, inspectChild, inspectComponent_eq]
    refine ⟨place, fun diagnostic hmem => ?_⟩
    exact List.mem_append_left _ (List.mem_append_right _ (hsubset hmem))
  · next reference hlayout =>
    rw [List.mem_singleton.mp h, hlayout, inspectPart]
    exact ⟨location, List.Subset.refl _⟩
  · cases h

/-- Everything that a component contains is inspected with it. -/
lemma inspectComponent_subset {component : Component} {child : Child}
    (h : component.Contains child) (location : String) :
    ∃ place, stage.inspectChild place child ⊆ stage.inspectComponent location component := by
  rw [inspectComponent_eq]
  rcases h with hchild | ⟨slot, hslot⟩
  · rcases List.mem_append.mp hchild with hlayout | hchild
    · obtain ⟨place, hsubset⟩ := stage.inspectPart_subset hlayout (location ++ "/layout")
      refine ⟨place, fun diagnostic hmem => ?_⟩
      exact List.mem_append_left _
        (List.mem_append_left _ (List.mem_append_right _ (hsubset hmem)))
    · obtain ⟨place, hsubset⟩ :=
        stage.inspectChildren_subset hchild (location ++ "/children/") 0
      refine ⟨place, fun diagnostic hmem => ?_⟩
      exact List.mem_append_left _ (List.mem_append_right _ (hsubset hmem))
  · exact ⟨_, List.Subset.trans (stage.inspectSlots_subset hslot location)
      (List.subset_append_right _ _)⟩

variable {stage}

lemma Inspected.of_contains {component : Component} {child : Child}
    (h : stage.Inspected (.inline component)) (hchild : component.Contains child) :
    stage.Inspected child := by
  obtain ⟨location, hinspect⟩ := h
  rw [inspectChild] at hinspect
  obtain ⟨place, hsubset⟩ := stage.inspectComponent_subset hchild location
  exact ⟨place, List.Subset.trans hsubset hinspect⟩

lemma inspected_of_mem {id : String} {component : Component}
    (h : (id, component) ∈ stage.document.components ++ stage.document.rootComponents) :
    stage.Inspected (.inline component) := by
  refine ⟨"components." ++ id, fun diagnostic hdiagnostic => ?_⟩
  rw [inspectChild] at hdiagnostic
  exact List.mem_append_right _ (List.mem_flatMap.mpr ⟨_, h, hdiagnostic⟩)

lemma inspected_of_component? {id : String} {component : Component}
    (h : stage.document.component? id = some component) : stage.Inspected (.inline component) := by
  rcases Option.or_eq_some_iff.mp h with hfound | ⟨-, hfound⟩
  · exact inspected_of_mem (List.mem_append_left _ (Entries.mem_of_get? hfound))
  · exact inspected_of_mem (List.mem_append_right _ (Entries.mem_of_get? hfound))

lemma inspected_of_page? {id : String} {page : Page} {layout : Child}
    (h : stage.document.page? id = some page) (hlayout : page.layout = some layout) :
    stage.Inspected layout := by
  refine ⟨"pages." ++ id ++ "/layout", fun diagnostic hdiagnostic => ?_⟩
  have hpage : diagnostic ∈ stage.inspectPage id page := by
    rw [inspectPage, hlayout, inspectPart]
    exact List.mem_append_right _ hdiagnostic
  have hpages : diagnostic ∈ stage.document.pages.flatMap fun entry =>
      stage.inspectPage entry.1 entry.2 :=
    List.mem_flatMap.mpr ⟨_, Entries.mem_of_get? h, hpage⟩
  exact List.mem_append_left _ (List.mem_append_right _ hpages)

/-! ### What is reported -/

lemma Reports.of_mem {location : String} {findings : List Finding} (finding : Finding)
    (h : finding ∈ findings) (hsubset : located location findings ⊆ stage.inspect) :
    stage.Reports finding.message :=
  ⟨⟨location, finding⟩, hsubset (List.mem_map_of_mem h), rfl⟩

lemma Inspected.covered {child : Child} (h : stage.Inspected child) : stage.Covered child := by
  cases child with
  | reference reference =>
    obtain ⟨location, hinspect⟩ := h
    rw [inspectChild] at hinspect
    intro hnone
    refine Reports.of_mem (.missingComponent reference.id) ?_ hinspect
    simp [referenceFindings, hnone]
  | «inline» component =>
    refine ⟨fun name hname => ?_, fun child hchild => h.of_contains hchild⟩
    obtain ⟨location, hinspect⟩ := h
    rw [inspectChild, inspectComponent_eq, List.append_assoc, List.append_assoc] at hinspect
    refine Reports.of_mem (.unknownType name) ?_
      (List.Subset.trans (List.subset_append_left _ _) hinspect)
    simp [componentFindings, hname]

/-- A drawing reaches only what is covered, if it starts with that. -/
lemma Reached.covered {start : Child → Prop} {child : Child} (h : stage.Reached start child)
    (hstart : ∀ child, start child → stage.Covered child) : stage.Covered child := by
  induction h with
  | start h => exact hstart _ h
  | inner _ hchild ih => exact (ih.2 _ hchild).covered
  | followed _ hfound _ =>
    -- what a reference overrides is neither the type nor what the component contains
    exact (inspected_of_component? hfound).covered

/-! ### Marks on the screen -/

variable {session : Session} {n : Node}

lemma Explains.of_isMark (h : n.isMark = false) : stage.Explains n where
  missing := fun reference hwidget => by
    rw [Node.isMark, hwidget] at h
    cases h
  unknown := fun name hwidget => by
    rw [Node.isMark, hwidget] at h
    cases h

/-- A placeholder stands for a type without a picture, or for one that is not in the catalog. -/
lemma explains_node {site : Site} (draw : Draw) (h : stage.Covered (.inline site.component)) :
    stage.Explains (site.node draw) := by
  cases hform : site.component.type.form with
  | generic =>
    by_cases hpage : site.component.type = .contentPage
    · refine .of_isMark ?_
      simp only [Site.node, Site.body, Site.other, hpage]
      rfl
    · have hwidget : (site.node draw).widget = .placeholder site.component.type.name := by
        simp only [Site.node, Site.body, hform, Site.other]
        rfl
      refine ⟨fun reference hmissing => ?_, fun name hname hknown => ?_⟩
      · rw [hwidget] at hmissing
        cases hmissing
      · rw [hwidget] at hname
        cases hname
        exact h.1 _ (ComponentType.eq_unknown hform hpage hknown)
  | stack =>
    refine .of_isMark ?_
    simp only [Site.node, Site.body, hform, Site.stack]
    split <;> rfl
  | _ =>
    refine .of_isMark ?_
    simp only [Site.node, Site.body, hform]
    rfl

lemma Drawn.explains {start : Child → Prop} (h : stage.Drawn start n)
    (hstart : ∀ child, start child → stage.Covered child) : stage.Explains n := by
  cases h with
  | component draw h => exact explains_node draw (h.covered hstart)
  | @notFound reference id h hmissing =>
    refine ⟨fun other hwidget => ?_, nofun⟩
    cases hwidget
    exact h.covered hstart hmissing
  | tooDeep id name => exact ⟨nofun, nofun⟩
  | frame h =>
    refine .of_isMark ?_
    rcases h.2 with hwidget | ⟨index, hwidget⟩ <;> rw [Node.isMark, hwidget]
  | label id text => exact .of_isMark rfl

lemma Shown.inspected {child : Child} (h : stage.Shown session child) : stage.Inspected child := by
  cases h with
  | layout hpage hlayout =>
    obtain ⟨id, -, hpage⟩ := Option.bind_eq_some_iff.mp hpage
    exact inspected_of_page? hpage hlayout
  | popup hopen hfound hcontent => exact (inspected_of_component? hfound).of_contains hcontent

/-- Only an open popup that is not declared is not explained. -/
lemma OnScreen.explains (h : stage.OnScreen session n) :
    (∃ popupId, session.openPopup = some popupId ∧ stage.document.component? popupId = none
        ∧ n = Node.missing (screenId ++ "/popup") popupId .notFound)
      ∨ stage.Explains n := by
  cases h with
  | screen => exact .inr (.of_isMark rfl)
  | page =>
    refine .inr (.of_isMark ?_)
    simp only [Stage.page]
    split <;> rfl
  | tabBar => exact .inr (.of_isMark rfl)
  | tab h =>
    obtain ⟨-, id, title, glyph, active, hwidget⟩ := tab_of_mem_tabBar h
    exact .inr (.of_isMark (by rw [Node.isMark, hwidget]))
  | @popup popupId hopen =>
    cases hfound : stage.document.component? popupId with
    | none =>
      refine .inl ⟨popupId, hopen, hfound, ?_⟩
      simp only [Stage.popup, hfound]
    | some component =>
      refine .inr (.of_isMark ?_)
      simp only [Stage.popup, hfound]
      rfl
  | closeButton => exact .inr (.of_isMark rfl)
  | snackbar h =>
    obtain ⟨⟨id, component⟩, -, rfl⟩ := Option.map_eq_some_iff.mp h
    exact .inr (.of_isMark rfl)
  | snackbarButton h hnode =>
    obtain ⟨id, caption, glyph, interaction, rfl, -⟩ := button_of_mem_snackbar h hnode
    exact .inr (.of_isMark rfl)
  | drawn h => exact .inr (h.explains fun child hchild => hchild.inspected.covered)

lemma explains_single {componentId : String}
    (hfound : (stage.document.component? componentId).isSome)
    (hn : n ∈ (stage.single session componentId).preorder) : stage.Explains n := by
  have hdrawn : stage.Drawn (· = .reference { id := componentId }) n :=
    drawn_of_mem (.start rfl) hn
  refine hdrawn.explains fun child hchild => ?_
  rw [hchild]
  intro hnone
  rw [hnone] at hfound
  cases hfound

end Stage

/-- A document with a reference that leads nowhere and types that the catalog does not have. -/
def Json.sketch : Json :=
  .object
    [("pages", .object
        [("Home", .object
            [("layout", .object
              [("type", .string "VerticalStack"),
                ("children", .array
                  [.object [("component", .string "Chart")],
                    .object [("type", .string "Carousel")]])])])]),
      ("components", .object
        [("Panel", .object
            [("type", .string "Border"),
              ("content", .object [("type", .string "Gauge")])])])]

namespace Preview

/-- After a run of a preview, a mark on the screen is explained by a diagnostic or stands for the open
popup. -/
lemma explained_of_run {stage : Stage} {canvas : Canvas} {first : Preview}
    (h : mount (some canvas) stage = .ok first) (operations : List Operation) :
    ∀ n ∈ (first.run operations).1.screen.preorder,
      (∃ popupId, (first.run operations).1.session.openPopup = some popupId
          ∧ stage.document.component? popupId = none
          ∧ n = Node.missing (screenId ++ "/popup") popupId .notFound)
        ∨ stage.Explains n := by
  intro n hn
  rw [screen_run_of_mount h] at hn
  exact (Stage.onScreen_of_mem hn).explains

/-- In every session, each mark on the screen and in a declared component by itself is explained by a
diagnostic, but for an open popup that is not declared. So it is after any run of a preview. -/
theorem explains_run (stage : Stage) :
    (∀ session,
        (∀ n ∈ (stage.screen session).preorder,
          (∃ popupId, session.openPopup = some popupId ∧ stage.document.component? popupId = none
              ∧ n = Node.missing (screenId ++ "/popup") popupId .notFound)
            ∨ stage.Explains n)
          ∧ ∀ componentId, (stage.document.component? componentId).isSome →
            ∀ n ∈ (stage.single session componentId).preorder, stage.Explains n)
      ∧ ∀ canvas first operations, mount (some canvas) stage = .ok first →
        ∀ n ∈ (first.run operations).1.screen.preorder,
          (∃ popupId, (first.run operations).1.session.openPopup = some popupId
              ∧ stage.document.component? popupId = none
              ∧ n = Node.missing (screenId ++ "/popup") popupId .notFound)
            ∨ stage.Explains n := by
  refine ⟨fun session => ⟨fun n hn => ?_, fun componentId hfound n hn => ?_⟩, ?_⟩
  · exact (Stage.onScreen_of_mem hn).explains
  · exact Stage.explains_single hfound hn
  · exact fun canvas first operations hmount => explained_of_run hmount operations

theorem explains_run_sketch :
    ∃ document first n m k,
      Document.ofJson? Json.sketch = .ok document
        ∧ mount (some {}) { document, options := { now := 0 } } = .ok first
        ∧ n ∈ (first.run [.showSnackbar]).1.screen.preorder
        ∧ n.widget = .missing "Chart" .notFound
        ∧ first.stage.Reports "Reference to missing component 'Chart'"
        ∧ m ∈ (first.run [.showSnackbar]).1.screen.preorder
        ∧ m.widget = .placeholder "Carousel"
        ∧ first.stage.Reports "Unknown component type 'Carousel'"
        ∧ k ∈ (first.stage.single first.session "Panel").preorder
        ∧ k.widget = .placeholder "Gauge"
        ∧ first.stage.Reports "Unknown component type 'Gauge'" := by
  obtain ⟨document, first, hload, hmount, hclosed, hn, hm, hk⟩ : ∃ document first,
      Document.ofJson? Json.sketch = .ok document
        ∧ mount (some {}) { document, options := { now := 0 } } = .ok first
        ∧ (first.run [.showSnackbar]).1.session.openPopup = none
        ∧ ((first.run [.showSnackbar]).1.screen.find? "screen/page/0/0").map Node.widget
          = some (.missing "Chart" .notFound)
        ∧ ((first.run [.showSnackbar]).1.screen.find? "screen/page/0/1").map Node.widget
          = some (.placeholder "Carousel")
        ∧ (first.stage.document.component? "Panel").isSome
        ∧ ((first.stage.single first.session "Panel").find? "player/Panel/content").map Node.widget
          = some (.placeholder "Gauge") :=
    ⟨_, _, rfl, rfl, rfl, rfl, rfl, rfl, rfl⟩
  obtain ⟨n, hfind, hwidget⟩ := Option.map_eq_some_iff.mp hn
  obtain ⟨m, hfind', hwidget'⟩ := Option.map_eq_some_iff.mp hm
  obtain ⟨k, hfind'', hwidget''⟩ := Option.map_eq_some_iff.mp hk.2
  obtain ⟨hstage, -, -⟩ := eq_of_mount hmount
  have hscreen : ∀ n ∈ (first.run [.showSnackbar]).1.screen.preorder, first.stage.Explains n := by
    intro n hn
    rw [hstage]
    rcases (explains_run _).2 _ _ _ hmount n hn with ⟨popupId, hopen, -, -⟩ | hexplains
    · rw [hclosed] at hopen
      cases hopen
    · exact hexplains
  have hsingle := ((explains_run first.stage).1 first.session).2 "Panel" hk.1
  have hn := Node.mem_of_find? hfind
  have hm := Node.mem_of_find? hfind'
  have hk := Node.mem_of_find? hfind''
  exact ⟨document, first, n, m, k, hload, hmount, hn, hwidget, (hscreen n hn).missing _ hwidget, hm,
    hwidget', (hscreen m hm).unknown _ hwidget' (by decide), hk, hwidget'',
    (hsingle k hk).unknown _ hwidget'' (by decide)⟩

end Preview

end Wireframe
