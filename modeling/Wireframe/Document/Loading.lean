import Wireframe.Component.Reading
import Wireframe.Document.Basic
import Wireframe.Json.Parser

/-!
# Loading documents

A document is read from JSON. Sections of the wrong shape are skipped; only a root that is no object
and tabs with the same id are refused.
-/

namespace Wireframe

/-- Why a document cannot be loaded. -/
inductive LoadError where
  | invalidJson
  | notAnObject (what : String)
  | duplicateTab (id : String)
deriving DecidableEq, Repr

def LoadError.message : LoadError → String
  | invalidJson => "Invalid wireframe JSON"
  | notAnObject what => "Expected " ++ what ++ " to be a JSON object"
  | duplicateTab id => "Duplicate tab id: " ++ id

/-! ### Sections -/

/-- The components that a section declares. -/
def readComponents (section? : Option Json) : Entries Component :=
  match section? with
  | some (.object fields) =>
    (Json.readFields fields).filterMap fun (id, _, reading) => reading.component.map (id, ·)
  | _ => []

/-- The shell; what its own section leaves out, the root component named `shell` may say. -/
def readShell (section? : Option Json) (rootShell : Option Component) : Shell :=
  let fields := (section?.bind Json.fields?).getD []
  let text (key : String) :=
    (Entries.string? fields key).or (rootShell.bind (·.literal? key))
  { title := text "title"
    tabBar := text "tabBar"
    content := text "content"
    style := ((Entries.get? fields "style").bind StyleRef.ofJson?).or (rootShell.bind (·.style)) }

def readPage (id : String) (fields : Entries Json) : Page :=
  { id
    title := fields.string? "title"
    style := (fields.get? "style").bind StyleRef.ofJson?
    layout := (fields.get? "layout").bind Child.ofJson? }

def readPages (section? : Option Json) : Entries Page :=
  match section? with
  | some (.object fields) =>
    fields.filterMap fun (id, page) => page.fields?.map fun page => (id, readPage id page)
  | _ => []

def readEffect (name : String) (fields : Entries Json) : Effect :=
  match fields.string? "type" with
  | some "command" => .command ((fields.string? "command").getD name)
  | some "popup" => .popup ((fields.string? "target").getD "")
  | some type => .other type
  | none => .other ""

def readActions (section? : Option Json) : Entries Effect :=
  match section? with
  | some (.object fields) =>
    fields.filterMap fun (name, action) =>
      action.fields?.map fun action => (name, readEffect name action)
  | _ => []

/-- The value of a data section: an object, if only an empty one. -/
def readData (section? : Option Json) : Json :=
  match section? with
  | some (.object fields) => .object fields
  | _ => .object []

/-! ### Tabs -/

/-- The tab that an object declares. -/
def readTab (id : String) (fields : Entries Json) : Tab :=
  { id
    title := (fields.string? "title").getD id
    icon := fields.string? "icon"
    target := match fields.string? "page", fields.string? "content" with
      | some page, _ => .page page
      | none, some content => .content content
      | none, none => .none
    style := (fields.get? "style").bind StyleRef.ofJson? }

/-- The tab with this id that a value declares, if it is an object. -/
def readTab? (id : String) (json : Json) : Option Tab :=
  json.fields?.map (readTab id)

/-- The id that an entry of a list of tabs gives itself. -/
def explicitTabId? (json : Json) : Option String :=
  (json.get? "id").bind Json.string?

/-- The id `tab-n` with the first number from `index` on that is not taken. -/
def freeTabId (index : Nat) (taken : List String) : String :=
  let ids := (List.range (taken.length + 1)).map fun n => "tab-" ++ Nat.repr (index + n)
  (ids.find? (· ∉ taken)).getD ""

/-- Reads a list of tabs from the entry `index` on, after the tabs in `tabs`. -/
def readTabList (explicit : List String) (index : Nat) (tabs : List Tab) :
    List Json → Except LoadError (List Tab)
  | [] => .ok tabs
  | json :: rest =>
    let id := match explicitTabId? json with
      | some id => id
      | none => freeTabId index (explicit ++ tabs.map (·.id))
    if id ∈ tabs.map (·.id) then .error (.duplicateTab id)
    else readTabList explicit (index + 1) (tabs ++ (readTab? id json).toList) rest

/-- The declared tabs, in the order of their declaration. -/
def readTabs (section? : Option Json) : Except LoadError (List Tab) :=
  match section? with
  | some (.object fields) => .ok (fields.filterMap fun (id, json) => readTab? id json)
  | some (.array items) => readTabList (items.filterMap explicitTabId?) 0 [] items
  | _ => .ok []

/-- Puts the tabs with these ids first. A tab named twice is refused, one that is not declared is
skipped. -/
def orderTabs (first tabs : List Tab) : List String → Except LoadError (List Tab)
  | [] => .ok (first ++ tabs)
  | id :: ids =>
    if id ∈ first.map (·.id) then .error (.duplicateTab id)
    else
      match tabs.find? (·.id = id) with
      | some tab => orderTabs (first ++ [tab]) (tabs.eraseP (·.id = id)) ids
      | none => orderTabs first tabs ids

/-- The order that the shell's tab bar lists, if it does. -/
def tabOrder? (shell : Shell) (components rootComponents : Entries Component) :
    Option (List String) := do
  let id ← shell.tabBar
  let bar ← (rootComponents.get? id).or (components.get? id)
  if bar.type = .tabBar then
    match ← bar.prop? "tabs" with
    | .value (.array order) => return order.filterMap Json.string?
    | _ => none
  else none

/-! ### Documents -/

namespace Document

/-- Loads a document from a JSON value. -/
def ofJson? (json : Json) : Except LoadError Document :=
  match json with
  | .object root => do
    let components := readComponents (Entries.get? root "components")
    let rootComponents := readComponents (Entries.get? root "rootComponents")
    let shell := readShell (Entries.get? root "shell") (rootComponents.get? "shell")
    let tabs ← readTabs (Entries.get? root "tabs")
    let tabs ← match tabOrder? shell components rootComponents with
      | some order => orderTabs [] tabs order
      | none => .ok tabs
    return {
      name := (Entries.string? root "name").getD "Untitled wireframe"
      description := Entries.string? root "description"
      shell
      tabs
      pages := readPages (Entries.get? root "pages")
      components
      rootComponents
      sampleData := readData (Entries.get? root "sampleData")
      actions := readActions (Entries.get? root "actions")
      state := readData (Entries.get? root "state")
      styles := StyleLibrary.ofJson? (Entries.get? root "styleLibrary") }
  | _ => .error (.notAnObject "wireframe document")

/-- Loads a document from JSON text. -/
def parse (text : String) : Except LoadError Document :=
  match Json.parse text with
  | some json => ofJson? json
  | none => .error .invalidJson

end Document

end Wireframe
