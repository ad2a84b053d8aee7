import Wireframe.Diagnostic.Basic
import Wireframe.Stage

/-!
# Inspecting documents

The checks that find diagnostics. Components are checked where they are written, with everything
that is written out below them; references are not followed.
-/

namespace Wireframe

namespace Stage

variable (stage : Stage)

/-- The findings on a style. -/
def styleFindings : Option StyleRef → List Finding
  | some (.named name) => if stage.styles.isKnown name then [] else [.unknownStyle name]
  | _ => []

/-- The findings on props: converters that do not exist. -/
def propFindings (props : Props) : List Finding :=
  props.filterMap fun (key, prop) => do
    let converter ← (← prop.binding?).converter?
    if (Converter.ofName? converter).isSome then none
    else some (.unknownConverter converter key)

/-- The findings on what is missing from a component. -/
def formFindings (component : Component) : List Finding :=
  let view := component.view
  let lacks (field : Field) := (view.get? field).isNone
  match view.form with
  | .button => if lacks .text && lacks .icon then [.emptyButton] else []
  | .border => if lacks .variant && component.style.isNone then [.plainBorder] else []
  | .collection =>
    if lacks .items && component.type = .collectionView then [.listWithoutItems] else []
  | _ => []

/-- The findings on the actions that a component runs. -/
def actionFindings (component : Component) : List Finding :=
  component.interactions.filterMap fun (_, action) =>
    let name := actionName action
    if (stage.document.action? name).isSome || (BuiltinAction.ofName? name).isSome then none
    else some (.undeclaredAction action)

/-- The findings on a component itself. -/
def componentFindings (component : Component) : List Finding :=
  (match component.type with
    | .unknown name => [.unknownType name]
    | _ => [])
    ++ stage.styleFindings component.style ++ propFindings component.props
    ++ formFindings component ++ stage.actionFindings component

/-- The findings on a reference. -/
def referenceFindings (reference : Reference) : List Finding :=
  (if (stage.document.component? reference.id).isSome then []
    else [.missingComponent reference.id])
    ++ stage.styleFindings reference.style ++ propFindings reference.props

/-- Findings at a location. -/
def located (location : String) (findings : List Finding) : List Diagnostic :=
  findings.map (Diagnostic.mk location)

mutual
/-- The diagnostics of a component and of everything written out below it. -/
def inspectComponent (location : String) : Component → List Diagnostic
  | ⟨type, props, style, layout, children, slots, interactions, placement⟩ =>
    located location (stage.componentFindings
        ⟨type, props, style, layout, children, slots, interactions, placement⟩)
      ++ inspectPart (location ++ "/layout") layout
      ++ inspectChildren (location ++ "/children/") 0 children
      ++ inspectSlots location slots

def inspectChild (location : String) : Child → List Diagnostic
  | .reference reference => located location (stage.referenceFindings reference)
  | .inline component => inspectComponent location component

def inspectPart (location : String) : Option Child → List Diagnostic
  | some child => inspectChild location child
  | none => []

/-- The diagnostics of children, whose locations end in their number. -/
def inspectChildren (location : String) (index : Nat) : List Child → List Diagnostic
  | [] => []
  | child :: children =>
    inspectChild (location ++ Nat.repr index) child
      ++ inspectChildren location (index + 1) children

def inspectSlots (location : String) : Slots Child → List Diagnostic
  | ⟨content, header, footer, template, emptyView⟩ =>
    inspectPart (location ++ "/" ++ Slot.name .content) content
      ++ inspectPart (location ++ "/" ++ Slot.name .header) header
      ++ inspectPart (location ++ "/" ++ Slot.name .footer) footer
      ++ inspectPart (location ++ "/" ++ Slot.name .template) template
      ++ inspectPart (location ++ "/" ++ Slot.name .emptyView) emptyView
end

/-- The diagnostics of a tab. -/
def inspectTab (tab : Tab) : List Diagnostic :=
  located ("tabs." ++ tab.id) <|
    (match stage.document.tabPage? tab with
      | none => [.tabWithoutPage]
      | some id => if (stage.document.page? id).isSome then [] else [.missingPage id])
      ++ stage.styleFindings tab.style

/-- The diagnostics of the shell. -/
def inspectShell : List Diagnostic :=
  located "shell" <|
    (match stage.document.shell.tabBar with
      | some id => if (stage.document.component? id).isSome then [] else [.missingTabBar id]
      | none => [])
      ++ stage.styleFindings stage.document.shell.style

/-- The diagnostics of a page. -/
def inspectPage (id : String) (page : Page) : List Diagnostic :=
  let location := "pages." ++ id
  located location (stage.styleFindings page.style)
    ++ stage.inspectPart (location ++ "/layout") page.layout

/-- All diagnostics of the document, in the order of its parts. -/
def inspect : List Diagnostic :=
  stage.document.tabs.flatMap stage.inspectTab ++ stage.inspectShell
    ++ stage.document.pages.flatMap (fun (id, page) => stage.inspectPage id page)
    ++ (stage.document.components ++ stage.document.rootComponents).flatMap
      fun (id, component) => stage.inspectComponent ("components." ++ id) component

end Stage

end Wireframe
