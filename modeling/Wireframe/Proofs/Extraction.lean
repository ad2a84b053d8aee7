import Wireframe.Proofs.ExtractedDocuments

/-!
# Extracting a component

A component that is written out in a layout is replaced by a reference, and declared under a name that
occurs nowhere in the document. Nothing else has to be changed: the sessions begin alike, and the screens
are the same on every tab, but that a mark of too deep nesting gives the name
(`Document.extraction_screen`).
-/

namespace Wireframe

/-- Whether a component, written out as a child, stands for its content. -/
def Component.StandsForContent (component : Component) : Prop :=
  component.type = .dataTemplate ∧ (component.prop? "items").isNone
    ∧ component.slots.content.isSome

instance (component : Component) : Decidable component.StandsForContent :=
  inferInstanceAs (Decidable (_ ∧ _ ∧ _))

namespace Json

/-- A component object with this type. -/
def typed (type : String) (fields : Entries Json) : Json :=
  .object (("type", .string type) :: fields)

/-- A document with two tabs, where the component for an entry of a list has this child. -/
def contacts (child : Json) : Entries Json :=
  [("tabs", .object
      [("People", .object [("page", .string "People")]),
        ("About", .object [("page", .string "About")])]),
    ("pages", .object
      [("People", .object
          [("layout", typed "CollectionView"
            [("items", .string "@sampleData.people"),
              ("template", .object [("component", .string "Person")])])]),
        ("About", .object [("layout", .object [("component", .string "Person")])])]),
    ("components", .object
      [("Person", typed "HorizontalStack"
          [("children", .array [typed "Label" [("text", .string "{binding name}")], child])])]),
    ("sampleData", .object
      [("people", .array [.object [("name", .string "Ada")], .object [("name", .string "Bo")]])])]

def callButton : Entries Json :=
  [("type", .string "Button"), ("text", .string "Call"),
    ("interactions", .object [("Clicked", .string "call")])]

/-- A document with one page, with this layout, and these components. -/
def onePage (layout : Json) (components : Entries Json) : Entries Json :=
  [("pages", .object [("Home", .object [("layout", layout)])]), ("components", .object components)]

def greeting : Entries Json := [("type", .string "Label"), ("text", .string "Hi")]

end Json

/-- The name that a mark of something missing gives. -/
def Node.missing? (node : Node) : Option String :=
  match node.widget with
  | .missing name _ => some name
  | _ => none

namespace Document

variable {name : String} {body root root' : Entries Json} {document : Document}

/-- A component that is written out reads as itself, unless it stands for its content. -/
lemma child_ofJson?_of_type (htype : (Entries.string? body "type").isSome)
    (hkept : ¬ (Component.ofFields body).StandsForContent) :
    Child.ofJson? (.object body) = some (.inline (Component.ofFields body)) := by
  obtain ⟨type, htype⟩ := Option.isSome_iff_exists.mp htype
  rw [Child.ofJson?_of_type htype, Component.unwrapped_eq]
  split
  · next hbare =>
    cases hcontent : (Component.ofFields body).slots.content with
    | none => rfl
    | some content =>
      exact absurd ⟨hbare.1, Option.isNone_iff_eq_none.mpr hbare.2, by rw [hcontent]; rfl⟩ hkept
  · rfl

/-- Extracting a component does not change what is rendered: the document in which it is declared and
referred to loads, has the same tabs and begins with the same session, and in every session, whatever
the tab, the screen is the same node by node, but that a mark of too deep nesting gives the name that
was declared instead of the type; without such a mark it is the same. -/
theorem extraction_screen (hplace : Json.ExtractsFrom name body root root')
    (hname : name ∉ (Json.object root).texts) (htype : (Entries.string? body "type").isSome)
    (hsnackbar : (Component.ofFields body).type ≠ .snackbar)
    (hkept : ¬ (Component.ofFields body).StandsForContent)
    (hload : ofJson? (.object root) = .ok document) :
    ∃ other, ofJson? (.object (Json.declare name body root')) = .ok other
      ∧ other.tabs = document.tabs
      ∧ Session.initial other = Session.initial document
      ∧ ∀ (options : Options) (session : Session), session.openPopup ≠ some name →
        (Stage.screen { document, options } session).SameBut
            (Component.ofFields body).type.name name
            (Stage.screen { document := other, options } session)
          ∧ ((∀ n ∈ (Stage.screen { document, options } session).preorder, ¬ n.isTooDeep) →
            Stage.screen { document := other, options } session
              = Stage.screen { document, options } session) := by
  obtain ⟨other, hother, hextracted⟩ :=
    extracted_ofJson? hplace hname (child_ofJson?_of_type htype hkept) hsnackbar hload
  refine ⟨other, hother, hextracted.tabs, hextracted.session_initial, fun options session hpopup => ?_⟩
  have hsame := hextracted.sameBut_screen options session hpopup
  exact ⟨hsame, hsame.eq⟩

theorem extraction_screen_contacts :
    ∃ document other,
      ofJson? (.object (Json.contacts (.object Json.callButton))) = .ok document
        ∧ ofJson? (.object (Json.declare "CallButton" Json.callButton
          (Json.contacts (Json.use "CallButton"))))
          = .ok other
        ∧ other.tabs = document.tabs
        ∧ Session.initial other = Session.initial document
        ∧ ∀ tab ∈ ["People", "About"],
          let session := { Session.initial document with activeTab := some tab }
          Stage.screen { document := other, options := { now := 0 } } session
            = Stage.screen { document, options := { now := 0 } } session := by
  have hplace : Json.ExtractsFrom "CallButton" Json.callButton
      (Json.contacts (.object Json.callButton)) (Json.contacts (Json.use "CallButton")) :=
    .component (.item .here [_] [] [_] []) (by decide) "Person" [] [] [_, _] [_]
  obtain ⟨document, hload, hdeep⟩ : ∃ document,
      ofJson? (.object (Json.contacts (.object Json.callButton))) = .ok document
        ∧ ∀ tab ∈ ["People", "About"], ∀ n ∈ (Stage.screen { document, options := { now := 0 } }
          { Session.initial document with activeTab := some tab }).preorder, ¬ n.isTooDeep :=
    ⟨_, rfl, by decide +kernel⟩
  obtain ⟨other, hother, htabs, hinitial, hscreen⟩ :=
    extraction_screen hplace (by decide +kernel) rfl (by decide +kernel) (by decide +kernel) hload
  exact ⟨document, other, hload, hother, htabs, hinitial, fun tab htab =>
    (hscreen { now := 0 } { Session.initial document with activeTab := some tab } nofun).2
      (hdeep tab htab)⟩

/-- Whether extracting the object that stands in a place shows on the first screen. -/
def ExtractionShows (name : String) (body : Entries Json) (place : Json → Entries Json) : Prop :=
  ∃ document other,
    name ∉ (Json.object (place (.object body))).texts
      ∧ (∃ type, Entries.string? body "type" = some type ∧ type ≠ "Snackbar")
      ∧ ofJson? (.object (place (.object body))) = .ok document
      ∧ ofJson? (.object (Json.declare name body (place (Json.use name)))) = .ok other
      ∧ Stage.screen { document := other, options := { now := 0 } } (.initial other)
        ≠ Stage.screen { document, options := { now := 0 } } (.initial document)

/-- What is extracted shows if it stood for its content, if a component's layout handed on its children,
if the nesting is too deep where it stood, and if it was not a child but embedded in a component. -/
theorem extractionShows_greeting :
    ExtractionShows "Card" [("type", .string "DataTemplate"), ("content", .object Json.greeting)]
        (fun child => Json.onePage child [])
      ∧ ExtractionShows "Card"
        [("type", .string "VerticalStack"), ("children", .array [.object Json.greeting])]
        (fun child => Json.onePage (.typed "VerticalStack"
          [("layout", .typed "DataTemplate" [("content", child)])]) [])
      ∧ ExtractionShows "Card" Json.greeting
        (fun child => Json.onePage (Json.use "Round")
          [("Round", .typed "VerticalStack" [("children", .array [child, Json.use "Round"])])])
      ∧ ExtractionShows "Card" Json.greeting
        (fun child => Json.onePage (.typed "Border" [("component", child)]) []) := by
  refine ⟨⟨_, _, by decide +kernel, ⟨_, rfl, by decide⟩, rfl, rfl, ?_⟩,
    ⟨_, _, by decide +kernel, ⟨_, rfl, by decide⟩, rfl, rfl, ?_⟩,
    ⟨_, _, by decide +kernel, ⟨_, rfl, by decide⟩, rfl, rfl, ?_⟩,
    ⟨_, _, by decide +kernel, ⟨_, rfl, by decide⟩, rfl, rfl, ?_⟩⟩
  all_goals
    refine ne_of_apply_ne (fun node => node.preorder.map fun n => (n.widget.name, n.missing?)) ?_
    decide +kernel

end Document

end Wireframe
