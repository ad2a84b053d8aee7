import Wireframe.Player
import Wireframe.Proofs.Degradations
import Wireframe.Proofs.Naming

/-!
# Diagnostics of the component that is shown

A component is inspected at a location that ends in its id, and what is written out in it at locations
that go on from there behind slashes. A player finds the diagnostics of the component that it shows by
these locations. So it finds all of them, in order, and none of a tab, the shell or a page
(`Player.diagnostics_inspect`). Those of other components it finds too where the ids meet: a component
and a root component may share an id, and an id may have slashes in it.
-/

namespace Wireframe

namespace Stage

variable {stage : Stage} {location : String} {diagnostic : Diagnostic}

/-! ### Where diagnostics are located -/

lemma extends_of_mem_located {findings : List Finding} (h : diagnostic ∈ located location findings) :
    Extends location diagnostic.location := by
  obtain ⟨finding, -, rfl⟩ := List.mem_map.mp h
  exact .refl location

mutual
/-- What is found in a component is located where it is or below. -/
theorem extends_of_mem_inspectComponent {location : String} {component : Component}
    (h : diagnostic ∈ stage.inspectComponent location component) :
    Extends location diagnostic.location := by
  match component with
  | ⟨type, props, style, layout, children, slots, interactions, placement⟩ =>
    simp only [inspectComponent, List.mem_append] at h
    rcases h with ((hown | hlayout) | hchildren) | hslots
    · exact extends_of_mem_located hown
    · exact (extends_append (by decide) location).trans (extends_of_mem_inspectPart hlayout)
    · exact extends_of_mem_inspectChildren hchildren
    · exact extends_of_mem_inspectSlots hslots

theorem extends_of_mem_inspectChild {location : String} {child : Child}
    (h : diagnostic ∈ stage.inspectChild location child) : Extends location diagnostic.location := by
  match child with
  | .reference reference => exact extends_of_mem_located h
  | .inline component => exact extends_of_mem_inspectComponent h

theorem extends_of_mem_inspectPart {location : String} {part : Option Child}
    (h : diagnostic ∈ stage.inspectPart location part) : Extends location diagnostic.location := by
  match part with
  | none => cases h
  | some child => exact extends_of_mem_inspectChild h

theorem extends_of_mem_inspectChildren {location : String} {index : Nat} {children : List Child}
    (h : diagnostic ∈ stage.inspectChildren (location ++ "/children/") index children) :
    Extends location diagnostic.location := by
  match children with
  | [] => cases h
  | child :: children =>
    rw [inspectChildren, List.mem_append] at h
    rcases h with hchild | hchildren
    · rw [String.append_assoc] at hchild
      have hslash : ['/'] <+: ("/children/" ++ Nat.repr index).toList := by
        have hchildren : ['/'] <+: "/children/".toList := by decide
        rw [String.toList_append]
        exact hchildren.trans (List.prefix_append _ _)
      exact (extends_append hslash location).trans (extends_of_mem_inspectChild hchild)
    · exact extends_of_mem_inspectChildren hchildren

theorem extends_of_mem_inspectSlots {location : String} {slots : Slots Child}
    (h : diagnostic ∈ stage.inspectSlots location slots) : Extends location diagnostic.location := by
  match slots with
  | ⟨content, header, footer, template, emptyView⟩ =>
    simp only [inspectSlots, List.mem_append] at h
    rcases h with (((hcontent | hheader) | hfooter) | htemplate) | hemptyView
    · exact (extends_of_mem_inspectPart hcontent).of_join
    · exact (extends_of_mem_inspectPart hheader).of_join
    · exact (extends_of_mem_inspectPart hfooter).of_join
    · exact (extends_of_mem_inspectPart htemplate).of_join
    · exact (extends_of_mem_inspectPart hemptyView).of_join
end

lemma extends_of_mem_inspectPage {id : String} {page : Page}
    (h : diagnostic ∈ stage.inspectPage id page) : Extends ("pages." ++ id) diagnostic.location := by
  simp only [inspectPage, List.mem_append] at h
  rcases h with hown | hlayout
  · exact extends_of_mem_located hown
  · exact (extends_append (by decide) _).trans (extends_of_mem_inspectPart hlayout)

end Stage

/-! ### What lies at a component -/

/-- Whether a diagnostic is located where a component is, or below. -/
def Diagnostic.LiesAt (id : String) (diagnostic : Diagnostic) : Prop :=
  Extends ("components." ++ id) diagnostic.location

instance (id : String) : DecidablePred (Diagnostic.LiesAt id) :=
  fun diagnostic => inferInstanceAs (Decidable (Extends _ diagnostic.location))

namespace Stage

variable {stage : Stage} {id other : String}

/-- What is located at a part of the document with another name lies at no component. -/
lemma filter_liesAt_eq_nil {start : String} {c : Char} (hstart : start.toList.head? = some c)
    (hc : c ≠ 'c') {diagnostics : List Diagnostic}
    (h : ∀ diagnostic ∈ diagnostics, ∃ rest, Extends (start ++ rest) diagnostic.location) :
    diagnostics.filter (·.LiesAt id) = [] := by
  refine List.filter_eq_nil_iff.mpr fun diagnostic hdiagnostic hat => hc ?_
  obtain ⟨rest, hrest⟩ := h diagnostic hdiagnostic
  have hat' : diagnostic.location.toList.head? = some 'c' :=
    Extends.head? (of_decide_eq_true hat) (by decide)
  exact Option.some_inj.mp ((hrest.head? hstart).symm.trans hat')

/-- The diagnostics of components that lie at a component. -/
def diagnosticsAt (stage : Stage) (id : String) (entries : Entries Component) : List Diagnostic :=
  (entries.flatMap fun (other, component) =>
    stage.inspectComponent ("components." ++ other) component).filter (·.LiesAt id)

lemma diagnosticsAt_append (entries others : Entries Component) :
    stage.diagnosticsAt id (entries ++ others)
      = stage.diagnosticsAt id entries ++ stage.diagnosticsAt id others := by
  rw [diagnosticsAt, List.flatMap_append, List.filter_append]
  rfl

lemma diagnosticsAt_cons (entry : String × Component) (entries : Entries Component) :
    stage.diagnosticsAt id (entry :: entries)
      = stage.diagnosticsAt id [entry] ++ stage.diagnosticsAt id entries :=
  diagnosticsAt_append [entry] entries

lemma diagnosticsAt_eq_nil_iff {entries : Entries Component} :
    stage.diagnosticsAt id entries = [] ↔ ∀ entry ∈ entries, stage.diagnosticsAt id [entry] = [] := by
  induction entries with
  | nil => simp [diagnosticsAt]
  | cons entry entries ih =>
    rw [diagnosticsAt_cons, List.append_eq_nil_iff, ih, List.forall_mem_cons]

lemma diagnosticsAt_singleton (id other : String) (component : Component) :
    stage.diagnosticsAt id [(other, component)]
      = (stage.inspectComponent ("components." ++ other) component).filter (·.LiesAt id) := by
  rw [diagnosticsAt, List.flatMap_singleton]

/-- All diagnostics of a component lie at an id that its own goes on from. -/
lemma diagnosticsAt_of_extends (h : Extends id other) (component : Component) :
    stage.diagnosticsAt id [(other, component)]
      = stage.inspectComponent ("components." ++ other) component := by
  rw [diagnosticsAt_singleton, List.filter_eq_self]
  intro diagnostic hdiagnostic
  have hat : diagnostic.LiesAt id :=
    (extends_append_iff.mpr h).trans (extends_of_mem_inspectComponent hdiagnostic)
  exact decide_eq_true hat

/-- No diagnostic of a component lies at an id that does not meet its own. -/
lemma diagnosticsAt_of_apart (h : ¬Extends id other) (h' : ¬Extends other id)
    (component : Component) : stage.diagnosticsAt id [(other, component)] = [] := by
  rw [diagnosticsAt_singleton, List.filter_eq_nil_iff]
  intro diagnostic hdiagnostic hat
  have hother := extends_of_mem_inspectComponent hdiagnostic
  rcases Extends.total (of_decide_eq_true hat) hother with hextends | hextends
  · exact h (extends_append_iff.mp hextends)
  · exact h' (extends_append_iff.mp hextends)

/-- Only what is found in components lies at one. -/
lemma filter_inspect : stage.inspect.filter (·.LiesAt id)
    = stage.diagnosticsAt id (stage.document.components ++ stage.document.rootComponents) := by
  have htabs : (stage.document.tabs.flatMap stage.inspectTab).filter (·.LiesAt id) = [] := by
    have hstart : "tabs.".toList.head? = some 't' := rfl
    refine filter_liesAt_eq_nil hstart (by decide) fun _ hdiagnostic => ?_
    obtain ⟨tab, -, htab⟩ := List.mem_flatMap.mp hdiagnostic
    exact ⟨tab.id, extends_of_mem_located htab⟩
  have hshell : stage.inspectShell.filter (·.LiesAt id) = [] := by
    have hstart : "shell".toList.head? = some 's' := rfl
    exact filter_liesAt_eq_nil hstart (by decide) fun _ hdiagnostic =>
      ⟨"", extends_of_mem_located hdiagnostic⟩
  have hpages : (stage.document.pages.flatMap fun entry => stage.inspectPage entry.1 entry.2).filter
      (·.LiesAt id) = [] := by
    have hstart : "pages.".toList.head? = some 'p' := rfl
    refine filter_liesAt_eq_nil hstart (by decide) fun _ hdiagnostic => ?_
    obtain ⟨entry, -, hpage⟩ := List.mem_flatMap.mp hdiagnostic
    exact ⟨entry.1, extends_of_mem_inspectPage hpage⟩
  rw [inspect, List.filter_append, List.filter_append, List.filter_append, htabs, hshell, hpages]
  rfl

end Stage

/-- A document with an id that goes on from another one, and with a root component of the same id. -/
def Json.gallery : Json :=
  .object
    [("pages", .object
        [("Home", .object [("layout", .object [("type", .string "Chart")])])]),
      ("components", .object
        [("Card", .object
            [("type", .string "Border"), ("footer", .object [("type", .string "Button")])]),
          ("Cards", .object [("type", .string "Button")]),
          ("Card/footer", .object [("type", .string "Gauge")])]),
      ("rootComponents", .object [("Card", .object [("type", .string "Carousel")])])]

namespace Player

variable {stage : Stage} {player : Player} {id : String}

lemma diagnostics_eq_filter (h : player.current? = some id) (all : List Diagnostic) :
    player.diagnostics all = all.filter (·.LiesAt id) := by
  simp only [diagnostics, h]
  refine List.filter_congr fun diagnostic _ => ?_
  rw [Bool.eq_iff_iff, Bool.or_eq_true, decide_eq_true_iff, decide_eq_true_iff,
    Text.isSome_dropStart?, Diagnostic.LiesAt, Extends]

/-- The diagnostics that a player shows for a component.

They are all of the component, in order, with what lies at it of the components before it, and of those
after it and the root components. Nothing is there of the tabs, the shell and the pages. A component with
an id that goes on from that of the component adds all of its diagnostics, and one with an id that does
not meet it adds none. So just the component's own are shown if no id meets it, and only if nothing of
other components lies at it. -/
theorem diagnostics_inspect {component : Component} {before after : Entries Component}
    (hcurrent : player.current? = some id)
    (hcomponents : stage.document.components = before ++ (id, component) :: after) :
    let others := before ++ (after ++ stage.document.rootComponents)
    let own := stage.inspectComponent ("components." ++ id) component
    player.diagnostics stage.inspect
        = stage.diagnosticsAt id before ++ own
          ++ stage.diagnosticsAt id (after ++ stage.document.rootComponents)
      ∧ (player.diagnostics stage.inspect = own
        ↔ ∀ entry ∈ others, stage.diagnosticsAt id [entry] = [])
      ∧ (∀ other, Extends id other → ∀ component, stage.diagnosticsAt id [(other, component)]
        = stage.inspectComponent ("components." ++ other) component)
      ∧ (∀ other, ¬Extends id other → ¬Extends other id → ∀ component,
        stage.diagnosticsAt id [(other, component)] = [])
      ∧ ((∀ entry ∈ others, ¬Extends id entry.1 ∧ ¬Extends entry.1 id) →
        player.diagnostics stage.inspect = own) := by
  intro others own
  have hown : stage.diagnosticsAt id [(id, component)] = own :=
    Stage.diagnosticsAt_of_extends (.refl id) component
  have hshown : player.diagnostics stage.inspect
      = stage.diagnosticsAt id before ++ own
        ++ stage.diagnosticsAt id (after ++ stage.document.rootComponents) := by
    rw [diagnostics_eq_filter hcurrent, Stage.filter_inspect, hcomponents, List.append_assoc,
      List.cons_append, Stage.diagnosticsAt_append, Stage.diagnosticsAt_cons, hown,
      List.append_assoc]
  have honly : player.diagnostics stage.inspect = own
      ↔ ∀ entry ∈ others, stage.diagnosticsAt id [entry] = [] := by
    rw [← Stage.diagnosticsAt_eq_nil_iff, Stage.diagnosticsAt_append, List.append_eq_nil_iff, hshown]
    constructor
    · intro heq
      have hlength := congrArg List.length heq
      simp only [List.length_append] at hlength
      exact ⟨List.eq_nil_of_length_eq_zero (by omega), List.eq_nil_of_length_eq_zero (by omega)⟩
    · rintro ⟨hbefore, hafter⟩
      rw [hbefore, hafter, List.nil_append, List.append_nil]
  refine ⟨hshown, honly, fun _ => Stage.diagnosticsAt_of_extends,
    fun _ => Stage.diagnosticsAt_of_apart, fun hapart => honly.mpr fun entry hentry => ?_⟩
  exact Stage.diagnosticsAt_of_apart (hapart entry hentry).1 (hapart entry hentry).2 entry.2

/-- On the second component of the gallery just its own diagnostics are shown. -/
theorem diagnostics_inspect_cards :
    ∃ document, Document.ofJson? Json.gallery = .ok document
      ∧ let stage : Stage := { document, options := { now := 0 } }
        let player := (ofDocument document 1500 false).next
        player.current? = some "Cards"
          ∧ player.diagnostics stage.inspect = [⟨"components.Cards", .emptyButton⟩] := by
  obtain ⟨document, card, cards, footer, root, hload, hcomponents, hroot, hcurrent, hown⟩ :
      ∃ document card cards footer root, Document.ofJson? Json.gallery = .ok document
        ∧ ({ document, options := { now := 0 } } : Stage).document.components
          = [("Card", card)] ++ ("Cards", cards) :: [("Card/footer", footer)]
        ∧ document.rootComponents = [("Card", root)]
        ∧ (ofDocument document 1500 false).next.current? = some "Cards"
        ∧ ({ document, options := { now := 0 } } : Stage).inspectComponent "components.Cards" cards
          = [⟨"components.Cards", .emptyButton⟩] :=
    ⟨_, _, _, _, _, rfl, rfl, rfl, rfl, rfl⟩
  obtain ⟨-, -, -, -, honly⟩ := diagnostics_inspect hcurrent hcomponents
  refine ⟨document, hload, hcurrent, (honly ?_).trans hown⟩
  simp only [hroot, List.cons_append, List.nil_append, List.forall_mem_cons]
  exact ⟨by decide, by decide, by decide, nofun⟩

/-- On the first component of the gallery the diagnostics of two other components are shown too. -/
theorem diagnostics_inspect_card :
    ∃ document, Document.ofJson? Json.gallery = .ok document
      ∧ let stage : Stage := { document, options := { now := 0 } }
        let player := ofDocument document 1500 false
        player.current? = some "Card"
          ∧ (document.components.get? "Card").map (stage.inspectComponent "components.Card")
            = some [⟨"components.Card", .plainBorder⟩, ⟨"components.Card/footer", .emptyButton⟩]
          ∧ player.diagnostics stage.inspect
            = [⟨"components.Card", .plainBorder⟩, ⟨"components.Card/footer", .emptyButton⟩,
              ⟨"components.Card/footer", .unknownType "Gauge"⟩,
              ⟨"components.Card", .unknownType "Carousel"⟩] :=
  ⟨_, rfl, rfl, rfl, rfl⟩

end Player

end Wireframe
