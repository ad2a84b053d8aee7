import Wireframe.Component.View
import Wireframe.Document.Action

/-!
# Wireframe documents

A document as it is loaded once and then only read: tabs, pages, components, actions, data and
styles, and how they refer to each other.
-/

namespace Wireframe

/-- Where a tab leads. -/
inductive TabTarget where
  | page (id : String)
  /-- A shell content, which names its page. -/
  | content (id : String)
  | none
deriving DecidableEq, Repr

/-- An entry of the navigation. -/
structure Tab where
  id : String
  title : String
  icon : Option String
  target : TabTarget
  style : Option StyleRef
deriving DecidableEq, Repr

/-- The frame around the pages. -/
structure Shell where
  title : Option String
  tabBar : Option String
  /-- The page, or shell content, of a document without tabs. -/
  content : Option String
  style : Option StyleRef
deriving DecidableEq, Repr

structure Page where
  id : String
  title : Option String
  style : Option StyleRef
  layout : Option Child

structure Document where
  name : String
  description : Option String
  shell : Shell
  /-- In the order in which they are shown. -/
  tabs : List Tab
  pages : Entries Page
  components : Entries Component
  rootComponents : Entries Component
  sampleData : Json
  actions : Entries Effect
  /-- The values of the session when it starts. -/
  state : Json
  styles : StyleLibrary

namespace Document

variable (document : Document)

def tab? (id : String) : Option Tab :=
  document.tabs.find? (·.id = id)

def page? (id : String) : Option Page :=
  document.pages.get? id

/-- The component with this id; root components come second. -/
def component? (id : String) : Option Component :=
  (document.components.get? id).or (document.rootComponents.get? id)

/-- What the action with this name does; the namespace may stand before it. -/
def action? (name : String) : Option Effect :=
  document.actions.get? (actionName name)

/-- The page that `content` leads to: a page itself, or the page that a shell content names. -/
def contentPage? (content : String) : Option String :=
  if document.pages.contains content then some content
  else
    match document.component? content with
    | some component =>
      if component.type = .shellContent then component.literal? "page" else none
    | none => none

/-- The page a tab leads to, which need not be declared. -/
def tabPage? (tab : Tab) : Option String :=
  match tab.target with
  | .page id => some id
  | .content id => document.contentPage? id
  | .none => none

/-- The page of a document without tabs: the shell's content, else the first page. -/
def fallbackPage? : Option String :=
  (document.shell.content.bind document.contentPage?).or document.pages.keys.head?

/-- The first declared snackbar. -/
def snackbar? : Option (String × Component) :=
  document.components.find? fun (_, component) => component.type = .snackbar

end Document

end Wireframe
