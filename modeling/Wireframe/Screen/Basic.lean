import Wireframe.Screen.Drawing

/-!
# Screens

The whole screen of a session: the page of the active tab, the tab bar, and above them the open popup
and the snackbar. Every node's id starts with the id of the screen.
-/

namespace Wireframe

/-- The id of the root; the ids of all other nodes go on from it. -/
def screenId : String := "screen"

/-- How deep components are drawn inside each other. -/
def maxDepth : Nat := 64

namespace Stage

variable (stage : Stage) (session : Session)

/-- The look of a part of the screen that is no component of its own. -/
def partAttributes (type : ComponentType) (style : Option StyleRef) : Attributes :=
  stage.styles.resolveOver style (type.look none)

/-- The page that is shown, if the document declares it. -/
def activePage? : Option Page :=
  let tab := session.activeTab.bind stage.document.tab?
  let id := match tab with
    | some tab => stage.document.tabPage? tab
    | none => stage.document.fallbackPage?
  id.bind stage.document.page?

/-- The node of the page. Without a page it stays empty. -/
def page : Node :=
  let id := screenId ++ "/page"
  match stage.activePage? session with
  | some page =>
    { id
      widget := .page page.title
      attributes := stage.partAttributes .contentPage page.style
      children := (page.layout.map fun layout =>
        stage.draw session maxDepth {} layout (id ++ "/0")).toList }
  | none => { id, widget := .page none }

def tabBar : Node :=
  let id := screenId ++ "/tabs"
  let bar := stage.document.shell.tabBar.bind stage.document.component?
  { id
    widget := .tabBar
    attributes := stage.partAttributes .tabBar (bar.bind Component.style)
    children := stage.document.tabs.map fun tab =>
      (Node.tab id tab.id tab.title tab.icon (session.activeTab = some tab.id)).withAttributes
        (stage.partAttributes .tab tab.style) }

/-- The popup with an id. Its components count as one level below the screen. -/
def popup (popupId : String) : Node :=
  let id := screenId ++ "/popup"
  match stage.document.component? popupId with
  | some component =>
    let site := stage.site session {} component id
    let draw := stage.draw session (maxDepth - 1)
    let title := if component.type.form = .popup then site.text? .title else none
    let footer :=
      { site with scope := { inPopupFooter := true } }.slot? draw .footer
    (Node.popup id popupId title
      ((site.slot? draw .content).toList ++ site.children draw {}) footer).withAttributes
        (stage.partAttributes .popup component.style)
  | none => Node.missing id popupId .notFound

def snackbarEvents : List String := ["ActionInvoked", "Action", "Clicked"]

/-- The declared snackbar. -/
def snackbar? : Option Node :=
  stage.document.snackbar?.map fun (_, component) =>
    let id := screenId ++ "/snackbar"
    let site := stage.site session {} component id
    (Node.snackbar id (site.text .message) (site.text? .actionLabel)
      (component.interaction? snackbarEvents)).withAttributes
        (stage.partAttributes .snackbar component.style)

/-- The screen of a session. -/
def screen : Node :=
  { id := screenId
    widget := .screen stage.document.shell.title stage.options.viewportWidth
      stage.options.viewportHeight
    attributes := stage.partAttributes .shell stage.document.shell.style
    children :=
      [stage.page session]
        ++ (if stage.document.tabs.isEmpty then [] else [stage.tabBar session])
        ++ (session.openPopup.map (stage.popup session)).toList
        ++ (if session.snackbarVisible then (stage.snackbar? session).toList else []) }

/-- A declared component by itself. -/
def single (componentId : String) : Node :=
  stage.draw session maxDepth {} (.reference { id := componentId }) ("player/" ++ componentId)

end Stage

end Wireframe
