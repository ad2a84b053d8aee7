import Wireframe.Proofs.Extraction
import Wireframe.Proofs.WrittenNodes

/-!
# Grid cells

The row and the column of a child come to the cell of its node, and one more of each to the style of
its element, as long as they fit into 32 bits (`Stage.inCell_run`). They are those of the child that is
drawn: a mark has no cell, and what stands for its content leaves the cell to the content.
-/

namespace Wireframe

/-! ### Reading -/

/-- The cell that a child asks for. -/
def Child.placement : Child → Placement
  | reference use => use.placement
  | .inline component => component.placement

/-- Whether an object with these fields is read as this child, and does not stand for its content. In a
slot a component may also be embedded. -/
inductive Child.ReadFrom (fields : Entries Json) : Child → Prop
  | child {child : Child} (h : Child.ofJson? (.object fields) = some child)
      (hkept : ¬ (Component.ofFields fields).StandsForContent) : ReadFrom fields child
  | embedded : ReadFrom fields (.inline (Component.ofFields fields))

/-- A child asks for the cell that its object names. -/
lemma Child.ReadFrom.placement_eq {fields : Entries Json} {child : Child}
    (h : child.ReadFrom fields) : child.placement = Parts.placement (Json.readFields fields) := by
  cases h with
  | embedded => rfl
  | child h hkept =>
    cases htype : Entries.string? fields "type" with
    | some name =>
      rw [Document.child_ofJson?_of_type (by rw [htype]; rfl) hkept] at h
      cases h
      rfl
    | none =>
      have htype : Parts.string? (Json.readFields fields) "type" = none := by
        rw [Parts.string?, json_readFields]
        exact htype
      simp only [ofJson?, Json.reading, Reading.ofParts, ofParts?, htype] at h
      split at h
      · next heq => cases heq
      · cases h
        rfl
      · cases h

lemma placement_readFields {fields : Entries Json} {row column : Nat}
    (hrow : (fields.get? "row").bind Json.natural? = some row)
    (hcolumn : (fields.get? "column").bind Json.natural? = some column) :
    Parts.placement (Json.readFields fields)
      = { row := some (.ofNat row), column := some (.ofNat column) } := by
  simp only [Parts.placement, json_readFields, hrow, hcolumn, Option.map_some]

/-! ### Drawing -/

lemma Stage.placement_of_resolve? {stage : Stage} {child : Child} {component : Component}
    (h : stage.resolve? child = some component) (hset : child.placement.isSet = true) :
    component.placement = child.placement := by
  cases child with
  | «inline» => cases h; rfl
  | reference use =>
    obtain ⟨declared, -, rfl⟩ := Option.map_eq_some_iff.mp h
    exact if_pos hset

lemma Site.cell_node {site : Site} {draw : Draw} {row column : UInt32}
    (h : site.component.placement = { row := some row, column := some column }) :
    (site.node draw).cell = some { row, column } := by
  rw [node, cell?, h]
  rfl

/-! ### Writing -/

namespace Node

/-- The declarations that a node has by its attributes. -/
def attributesCss (node : Node) : String :=
  match node.attributes with
  | some attributes => if node.widget.paintsSurface then attributes.css else attributes.textCss
  | none => ""

/-- The declarations that place an element between grid lines, which count from one. -/
def linesCss (row column : Nat) : String :=
  declaration "grid-row" (Nat.repr row) ++ declaration "grid-column" (Nat.repr column)

/-- The style of the element that a node is written as, as it is read from the text. -/
def writtenStyle? (node : Node) : Option String :=
  match Token.scan? node.html with
  | some (.opening _ attributes :: _) => (attributes.lookup "style").map Text.unescape
  | _ => none

variable {node : Node}

lemma writtenStyle?_eq (h : node.Plain) :
    node.writtenStyle? = if node.style (widgetCss node.widget) = "" then none
      else some (node.style (widgetCss node.widget)) := by
  rw [writtenStyle?, scan?_html, markup_of_drawsButtons h.buttons, element, Markup.tokens]
  simp only [Markup.lookup_escaped, Option.map_map, Function.comp_def, Text.unescape_escape]
  split <;> split <;> simp [List.lookup_cons]

lemma linesCss_ne_empty (row column : Nat) : linesCss row column ≠ "" := by
  simp [linesCss, declaration, ← String.toList_inj]

lemma cellCss_ofNat {row column : Nat} (hrow : row + 1 < UInt32.size)
    (hcolumn : column + 1 < UInt32.size) :
    cellCss (some { row := .ofNat row, column := .ofNat column })
      = linesCss (row + 1) (column + 1) := by
  have hnext {n : Nat} (hn : n + 1 < UInt32.size) : (UInt32.ofNat n + 1).toNat = n + 1 := by
    rw [UInt32.toNat_add, UInt32.toNat_ofNat_of_lt' (Nat.lt_of_succ_lt hn)]
    exact Nat.mod_eq_of_lt hn
  rw [cellCss, linesCss, hnext hrow, hnext hcolumn]

/-- Whether a node is in a cell, and is written between the grid lines around it. Rows and columns count
from zero, and fit into 32 bits, and so do the lines, which count from one. -/
structure InCell (node : Node) (row column : Nat) : Prop where
  cell : ∃ cell, node.cell = some cell ∧ cell.row.toNat = row ∧ cell.column.toNat = column
  style : row + 1 < UInt32.size → column + 1 < UInt32.size → node.writtenStyle?
    = some (node.attributesCss ++ linesCss (row + 1) (column + 1) ++ widgetCss node.widget)

lemma Plain.inCell {row column : Nat} (h : node.Plain)
    (hcell : node.cell = some { row := .ofNat row, column := .ofNat column })
    (hrow : row < UInt32.size) (hcolumn : column < UInt32.size) : node.InCell row column where
  cell := ⟨_, hcell, UInt32.toNat_ofNat_of_lt' hrow, UInt32.toNat_ofNat_of_lt' hcolumn⟩
  style := fun hrowNext hcolumnNext => by
    have hstyle : node.style (widgetCss node.widget) = node.attributesCss
        ++ linesCss (row + 1) (column + 1) ++ widgetCss node.widget := by
      rw [← cellCss_ofNat hrowNext hcolumnNext, ← hcell]
      rfl
    have hwritten : node.style (widgetCss node.widget) ≠ "" := by
      rw [hstyle]
      simp [linesCss_ne_empty]
    rw [writtenStyle?_eq h, if_neg hwritten, hstyle]

end Node

namespace Stage

variable {stage : Stage} {fields : Entries Json} {child : Child} {row column : Nat}

/-- Whatever a declared child is drawn as, it is in the cell that its object names. -/
lemma inCell_draw (hread : child.ReadFrom fields) (hdeclared : (stage.resolve? child).isSome)
    (hrow : (fields.get? "row").bind Json.natural? = some row) (hrowLt : row < UInt32.size)
    (hcolumn : (fields.get? "column").bind Json.natural? = some column)
    (hcolumnLt : column < UInt32.size) (session : Session) (depth : Nat) (scope : Scope)
    (id : String) :
    (stage.draw session (depth + 1) scope child id).InCell row column
      ∧ (stage.draw session (depth + 1) scope child id).id = id := by
  have hplacement := hread.placement_eq.trans (placement_readFields hrow hcolumn)
  have hset : child.placement.isSet = true := by
    rw [hplacement]
    rfl
  obtain ⟨component, hcomponent⟩ := Option.isSome_iff_exists.mp hdeclared
  have hcell := (placement_of_resolve? hcomponent hset).trans hplacement
  have hdraw : stage.draw session (depth + 1) scope child id
      = (stage.site session scope component id).node (stage.draw session depth) := by
    have hcue := @draw_succ stage session depth ⟨scope, child, id⟩
    rwa [hcomponent] at hcue
  rw [hdraw]
  exact ⟨(Site.plain_node _ _).inCell (Site.cell_node hcell) hrowLt hcolumnLt, Site.id_node _ _⟩

/-- A declared child whose object names a row and a column is in this cell wherever it is drawn, and
written between the lines around it. After any run of a preview, what is drawn of it is a node of the
screen, and found in the written screen as it is written by itself. -/
theorem inCell_run (hread : child.ReadFrom fields) (hdeclared : (stage.resolve? child).isSome)
    (hrow : (fields.get? "row").bind Json.natural? = some row) (hrowLt : row < UInt32.size)
    (hcolumn : (fields.get? "column").bind Json.natural? = some column)
    (hcolumnLt : column < UInt32.size) :
    (∀ session depth scope id, (stage.draw session (depth + 1) scope child id).InCell row column)
      ∧ ∀ canvas first operations last depth cue,
        Preview.mount (some canvas) stage = .ok first → (first.run operations).1 = last →
        stage.Placed last.session depth cue → depth < maxDepth → cue.child = child →
          ∃ node ∈ last.screen.preorder, node.id = cue.id ∧ node.InCell row column
            ∧ Text.Occurs node.html last.html := by
  have hdraw := inCell_draw hread hdeclared hrow hrowLt hcolumn hcolumnLt
  refine ⟨fun session depth scope id => (hdraw session depth scope id).1, ?_⟩
  rintro canvas first operations last depth cue hmount rfl hplaced hdepth rfl
  have hscreen := Preview.screen_run_of_mount hmount operations
  obtain ⟨left, hleft⟩ : ∃ left, maxDepth - depth = left + 1 := ⟨maxDepth - depth - 1, by omega⟩
  obtain ⟨hcell, hid⟩ := hdraw (first.run operations).1.session left cue.scope cue.id
  rw [← hleft] at hcell hid
  refine ⟨_, hscreen ▸ hplaced.mem_screen (Nat.le_of_lt hdepth), hid, hcell, ?_⟩
  rw [Preview.html, hscreen]
  exact hplaced.occurs_screen (Nat.le_of_lt hdepth)

end Stage

namespace Json

/-- A label in a cell of a grid. -/
def here : Entries Json :=
  [("type", .string "Label"), ("text", .string "Here"), ("row", .natural 3), ("column", .natural 4)]

/-- A page with a grid: a label, a reference to nothing, a template that stands for its content, a label
far away, and a stack that contains itself. -/
def board : Json :=
  .object
    [("pages", .object
        [("Home", .object
            [("layout", typed "Grid"
              [("children", .array
                [.object here,
                  .object [("component", .string "Nowhere"), ("row", .natural 1), ("column", .natural 2)],
                  typed "DataTemplate"
                    [("content", .object greeting), ("row", .natural 1), ("column", .natural 2)],
                  typed "Label"
                    [("text", .string "Far"), ("row", .natural UInt32.size),
                      ("column", .natural (UInt32.size - 1))],
                  .object [("component", .string "Round")]])])])]),
      ("components", .object
        [("Round", typed "VerticalStack"
          [("children", .array
            [.object [("component", .string "Round"), ("row", .natural 1), ("column", .natural 2)]])])])]

end Json

namespace Stage

/-- The label in the grid. -/
theorem inCell_run_board :
    ∃ document first node,
      Document.ofJson? Json.board = .ok document
        ∧ Preview.mount (some {}) { document, options := { now := 0 } } = .ok first
        ∧ node ∈ first.screen.preorder ∧ node.id = "screen/page/0/0" ∧ node.InCell 3 4
        ∧ Text.Occurs node.html first.html := by
  obtain ⟨document, first, page, grid, cue, hload, hmount, hpage, hlayout, hcue, hread, hdeclared,
      hid⟩ :
      ∃ (document : Document) (first : Preview) (page : Page) (grid : Component) (cue : Cue),
        Document.ofJson? Json.board = .ok document
          ∧ Preview.mount (some {}) { document, options := { now := 0 } } = .ok first
          ∧ Stage.activePage? { document, options := { now := 0 } } first.session = some page
          ∧ page.layout = some (.inline grid)
          ∧ (Stage.site { document, options := { now := 0 } } first.session {} grid
            (screenId ++ "/page" ++ "/0")).cues[0]? = some cue
          ∧ Child.ofJson? (.object Json.here) = some cue.child
          ∧ (Stage.resolve? { document, options := { now := 0 } } cue.child).isSome = true
          ∧ cue.id = "screen/page/0/0" :=
    ⟨_, _, _, _, _, rfl, rfl, rfl, rfl, rfl, rfl, rfl, by decide +kernel⟩
  have hplaced : Stage.Placed { document, options := { now := 0 } } first.session 1 cue :=
    .inner (.begun (.page hpage hlayout)) rfl (List.mem_of_getElem? hcue)
  have hrow : (Entries.get? Json.here "row").bind Json.natural? = some 3 := rfl
  have hcolumn : (Entries.get? Json.here "column").bind Json.natural? = some 4 := rfl
  have hkept : ¬ (Component.ofFields Json.here).StandsForContent := by decide
  obtain ⟨node, hnode, hnodeId, hcell, hoccurs⟩ :=
    (inCell_run (.child hread hkept) hdeclared hrow (by decide) hcolumn (by decide)).2
      {} first [] first 1 cue hmount rfl hplaced (by decide) rfl
  exact ⟨document, first, node, hload, hmount, hnode, hnodeId.trans hid, hcell, hoccurs⟩

/-- Neither mark of a component has a cell, nor has the content of the template; and a row and a column
that are too large come to others. -/
theorem inCell_run_board_ne :
    ∃ document first,
      Document.ofJson? Json.board = .ok document
        ∧ Preview.mount (some {}) { document, options := { now := 0 } } = .ok first
        ∧ (first.screen.find? "screen/page/0/1").map Node.cell = some none
        ∧ (first.screen.find? "screen/page/0/2").map Node.cell = some none
        ∧ (first.screen.find? "screen/page/0/3").map Node.cell
          = some (some { row := 0, column := 4294967295 })
        ∧ (first.screen.find? "screen/page/0/3").map (fun n => Node.cellCss n.cell)
          = some "grid-row:1;grid-column:0;"
        ∧ first.screen.preorder.any (fun n => n.isTooDeep && n.cell.isNone) = true :=
  ⟨_, _, rfl, rfl, by decide +kernel, by decide +kernel, by decide +kernel, by decide +kernel,
    by decide +kernel⟩

end Stage

end Wireframe
