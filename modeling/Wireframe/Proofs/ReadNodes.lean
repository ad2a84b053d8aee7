import Wireframe.Proofs.PageIsolation
import Wireframe.Proofs.ScreenElements

/-!
# Nodes in what is read

A written tree is read back with the very values and texts that its markup was made of
(`Node.read?_html`). A reader who knows of no tree finds nodes there by the attributes of tags: the
id of each, and the text that it shows as a label or in a field. They are the nodes of the tree, in
the order in which they are drawn (`Node.says_markup`). So no two screens that differ in any of this
are written alike (`Text.escape_laws`).
-/

namespace Wireframe

/-! ### Reading with entities -/

namespace Token

/-- The characters up to the next tag. -/
def leading : List Token → List Char
  | char c :: tokens => c :: leading tokens
  | _ => []

/-- What is meant from the next tag on. -/
def meantFromTag : List Token → List Token
  | [] => []
  | char _ :: tokens => meantFromTag tokens
  | opening tag attributes :: tokens =>
    opening tag (attributes.map fun attr => (attr.1, Text.unescape attr.2))
      :: ((Text.unescapeChars (leading tokens)).map char ++ meantFromTag tokens)
  | closing tag :: tokens =>
    closing tag :: ((Text.unescapeChars (leading tokens)).map char ++ meantFromTag tokens)

/-- What is meant by the tokens of a text: the entities in values and between tags are read. -/
def meant (tokens : List Token) : List Token :=
  (Text.unescapeChars (leading tokens)).map char ++ meantFromTag tokens

/-- The tags of a text with their values, and the characters between them. -/
def read? (text : String) : Option (List Token) :=
  (scan? text).map meant

@[simp] lemma meant_nil : meant [] = [] := rfl

@[simp] lemma meant_opening (tag : String) (attributes : List (String × String))
    (tokens : List Token) :
    meant (opening tag attributes :: tokens)
      = opening tag (attributes.map fun attr => (attr.1, Text.unescape attr.2)) :: meant tokens :=
  rfl

@[simp] lemma meant_closing (tag : String) (tokens : List Token) :
    meant (closing tag :: tokens) = closing tag :: meant tokens := rfl

@[simp] lemma leading_chars (cs : List Char) (tokens : List Token) :
    leading (cs.map char ++ tokens) = cs ++ leading tokens := by
  induction cs with
  | nil => rfl
  | cons c cs ih => exact congrArg (c :: ·) ih

lemma meant_chars (cs : List Char) (tokens : List Token) :
    meant (cs.map char ++ tokens)
      = (Text.unescapeChars (cs ++ leading tokens)).map char ++ meantFromTag tokens := by
  have htags : meantFromTag (cs.map char ++ tokens) = meantFromTag tokens := by
    induction cs with
    | nil => rfl
    | cons c cs ih => exact ih
  rw [meant, leading_chars, htags]

end Token

namespace Markup

/-- What markup says: its tags with the values themselves, and the characters of its texts. -/
def meaning : Markup → List Token
  | text content => content.toList.map .char
  | element tag attributes children =>
    .opening tag.name attributes
      :: if tag.isVoid then [] else children.flatMap meaning ++ [.closing tag.name]

mutual
lemma meant_tokens (markup : Markup) (rest : List Token) :
    Token.meant (markup.tokens ++ rest) = markup.meaning ++ Token.meant rest := by
  match markup with
  | text content =>
    rw [tokens, meaning, Token.meant_chars, Text.unescapeChars_escapeChars, List.map_append,
      List.append_assoc]
    rfl
  | element tag attributes children =>
    have hattributes : (attributes.map Scanner.escaped).map
        (fun attr => (attr.1, Text.unescape attr.2)) = attributes := by
      simp [Function.comp_def, Scanner.escaped]
    rw [tokens, meaning, List.cons_append, Token.meant_opening, hattributes]
    split
    · rfl
    · rw [List.append_assoc, meant_tokensAll, List.singleton_append, Token.meant_closing]
      simp only [List.cons_append, List.append_assoc, List.nil_append]

lemma meant_tokensAll (items : List Markup) (rest : List Token) :
    Token.meant (items.flatMap tokens ++ rest) = items.flatMap meaning ++ Token.meant rest := by
  match items with
  | [] => rfl
  | item :: items =>
    rw [List.flatMap_cons, List.append_assoc, meant_tokens item, meant_tokensAll items,
      List.flatMap_cons, List.append_assoc]
end

/-- Printed markup is read back as what it says. -/
lemma read?_print {markup : Markup} (h : markup.WellNamed) :
    Token.read? markup.print = some markup.meaning := by
  have hmeant : Token.meant markup.tokens = markup.meaning := by
    simpa using meant_tokens markup []
  rw [Token.read?, scan?_print h, Option.map_some, hmeant]

end Markup

/-- A written tree is read back as what its markup says. -/
lemma Node.read?_html (node : Node) : Token.read? node.html = some node.markup.meaning :=
  Markup.read?_print (wellNamed_markup node)

/-! ### Reading nodes -/

namespace Token

/-- The text in the first control. -/
def controlText? : List Token → Option String
  | [] => none
  | opening tag attributes :: tokens =>
    if tag = "input" then attributes.lookup "value"
    else if tag = "textarea" then some (String.ofList (leading tokens))
    else controlText? tokens
  | closing _ :: tokens => controlText? tokens
  | char _ :: tokens => controlText? tokens

/-- The text that a node of a kind shows as a label or in a field, if what is in its element comes
next. -/
def textOf? (kind : String) (tokens : List Token) : Option String :=
  if kind = "text" then some (String.ofList (leading tokens))
  else if kind = "text-field" then controlText? tokens
  else none

/-- The id and the text of the node whose element comes next. The card of a popup has an id, but is of
no kind. -/
def node? : List Token → Option (String × Option String)
  | opening _ attributes :: tokens =>
    (attributes.lookup "data-wv-node").bind fun id =>
      (attributes.lookup "data-wv-kind").map fun kind => (id, textOf? kind tokens)
  | _ => none

/-- The nodes whose elements are among the tokens. -/
def nodes : List Token → List (String × Option String)
  | [] => []
  | token :: tokens => (node? (token :: tokens)).toList ++ nodes tokens

@[simp] lemma controlText?_chars (cs : List Char) (tokens : List Token) :
    controlText? (cs.map char ++ tokens) = controlText? tokens := by
  induction cs with
  | nil => rfl
  | cons c cs ih => exact ih

@[simp] lemma nodes_chars (cs : List Char) (tokens : List Token) :
    nodes (cs.map char ++ tokens) = nodes tokens := by
  induction cs with
  | nil => rfl
  | cons c cs ih => exact ih

@[simp] lemma nodes_closing (tag : String) (tokens : List Token) :
    nodes (closing tag :: tokens) = nodes tokens := rfl

end Token

/-! ### Nodes in markup -/

namespace Markup

/-- Whether these are the nodes that are found in markup, whatever comes after it. -/
def Says (items : List Markup) (found : List (String × Option String)) : Prop :=
  ∀ rest, Token.nodes (items.flatMap meaning ++ rest) = found ++ Token.nodes rest

namespace Says

variable {items others : List Markup} {found more : List (String × Option String)}
  {tag : Tag} {attributes : List (String × String)}

lemma nil : Says [] [] :=
  fun _ => rfl

lemma append (h : Says items found) (h' : Says others more) :
    Says (items ++ others) (found ++ more) := by
  intro rest
  rw [List.flatMap_append, List.append_assoc, h, h', List.append_assoc]

lemma cons {item : Markup} (h : Says [item] found) (h' : Says others more) :
    Says (item :: others) (found ++ more) :=
  h.append h'

lemma text (content : String) : Says [.text content] [] := by
  intro rest
  rw [List.flatMap_singleton, meaning]
  exact Token.nodes_chars _ _

lemma map {children : List Node} {draw : Node → Markup}
    {find : Node → List (String × Option String)}
    (h : ∀ child ∈ children, Says [draw child] (find child)) :
    Says (children.map draw) (children.flatMap find) := by
  induction children with
  | nil => exact nil
  | cons child children ih =>
    obtain ⟨hchild, hchildren⟩ := List.forall_mem_cons.mp h
    exact hchild.cons (ih hchildren)

lemma nodes_element (htag : tag.isVoid = false) (h : Says items found) (rest : List Token) :
    Token.nodes ((Markup.element tag attributes items).meaning ++ rest)
      = (Token.node? ((Markup.element tag attributes items).meaning ++ rest)).toList ++ found
        ++ Token.nodes rest := by
  have hmeaning : (Markup.element tag attributes items).meaning ++ rest
      = .opening tag.name attributes :: (items.flatMap meaning ++ .closing tag.name :: rest) := by
    simp [meaning, htag]
  rw [hmeaning, Token.nodes, h, Token.nodes_closing, List.append_assoc]

/-- In the element of a node there are the node and what is in the element. -/
lemma node {entry : String × Option String} (htag : tag.isVoid = false)
    (h : Says items found)
    (hnode : ∀ rest, Token.node? ((Markup.element tag attributes items).meaning ++ rest)
      = some entry) : Says [.element tag attributes items] (entry :: found) := by
  intro rest
  rw [List.flatMap_singleton, h.nodes_element htag, hnode]
  rfl

/-- In an element that is of no kind there is just what is in the element. -/
lemma element (htag : tag.isVoid = false) (h : Says items found)
    (hkind : attributes.lookup "data-wv-kind" = none) :
    Says [.element tag attributes items] found := by
  intro rest
  have hnode : Token.node? ((Markup.element tag attributes items).meaning ++ rest) = none := by
    cases hid : attributes.lookup "data-wv-node" <;> simp [meaning, Token.node?, hid, hkind]
  rw [List.flatMap_singleton, h.nodes_element htag, hnode]
  rfl

end Says

mutual
/-- Nothing is found in markup without marks. -/
lemma nodes_of_marks {markup : Markup} (h : markup.marks = []) (rest : List Token) :
    Token.nodes (markup.meaning ++ rest) = Token.nodes rest := by
  match markup with
  | .text content =>
    rw [meaning, Token.nodes_chars]
  | .element tag attributes children =>
    rw [marks_element, List.append_eq_nil_iff] at h
    obtain ⟨hmark, hchildren⟩ := h
    have hid : attributes.lookup "data-wv-node" = none := by simpa [mark?] using hmark
    have hnode (tokens : List Token) :
        Token.node? (.opening tag.name attributes :: tokens) = none := by
      simp [Token.node?, hid]
    rw [meaning, List.cons_append, Token.nodes, hnode, Option.toList_none, List.nil_append]
    split
    · rfl
    · next hvoid =>
      rw [if_neg hvoid] at hchildren
      rw [List.append_assoc, nodes_of_marksAll hchildren]
      rfl

lemma nodes_of_marksAll {items : List Markup} (h : items.flatMap marks = []) (rest : List Token) :
    Token.nodes (items.flatMap meaning ++ rest) = Token.nodes rest := by
  match items with
  | [] => rfl
  | item :: items =>
    rw [List.flatMap_cons, List.append_eq_nil_iff] at h
    rw [List.flatMap_cons, List.append_assoc, nodes_of_marks h.1, nodes_of_marksAll h.2]
end

lemma says_of_marks {items : List Markup} (h : items.flatMap marks = []) : Says items [] :=
  nodes_of_marksAll h

end Markup

namespace Node

open Markup (Says)

/-! ### Nodes in the content of widgets -/

/-- In a widget's content its children are found, if it has a place for them. -/
lemma says_content {drawn : List Markup} {found : List (String × Option String)}
    (h : Says drawn found) (widget : Widget) :
    Says (content drawn widget) (if isLeaf widget then [] else found) := by
  cases hleaf : isLeaf widget with
  | true =>
    refine Markup.says_of_marks ?_
    rw [marks_content, hleaf]
    rfl
  | false =>
    have hspan (css : String) (text : Option String) : Says (optionalSpan css text) [] :=
      Markup.says_of_marks (marks_optionalSpan css text)
    have hside (actions : List SwipeAction) : Says (swipeSide actions) [] :=
      Markup.says_of_marks (marks_swipeSide actions)
    rw [if_neg Bool.false_ne_true]
    cases widget with
    | screen title | page title => exact (hspan _ _).append h
    | card header footer =>
      simpa [content] using ((hspan _ header).append h).append (hspan _ footer)
    | swipe left right =>
      have hdiv : Says [.element .div [("style", "flex:1 1 auto;")] drawn] found :=
        .element rfl h rfl
      simpa [content] using ((hside left).append hdiv).append (hside right)
    | radioGroup label =>
      have hlegend : Says (label.toList.map fun label => .element .legend [] [.text label]) [] := by
        refine Markup.says_of_marks ?_
        cases label <;> simp [Markup.mark?, Tag.isVoid]
      exact hlegend.append h
    | tabBar | stack | grid | flex | overlay | collection | collectionItem | emptyView | popup
      | snackbar => exact h
    | _ => cases hleaf

/-! ### Nodes in their elements -/

/-- The id of a node and the text that it shows. -/
def shown (node : Node) : String × Option String :=
  (node.id, node.text?)

/-- The text of a widget is in its content. -/
lemma textOf?_content (node : Node) (drawn : List Markup) (tag : String) (rest : List Token) :
    Token.textOf? node.widget.name
        ((content drawn node.widget).flatMap Markup.meaning ++ .closing tag :: rest)
      = node.text? := by
  unfold text?
  cases node.widget with
  | text text => simp [Token.textOf?, Widget.name, content, Markup.meaning, Token.leading]
  | textField label hint value helper error secure multiline =>
    cases label <;> cases multiline <;>
      simp [Token.textOf?, Widget.name, content, optionalSpan, fieldControl, Markup.styledSpan,
        Markup.meaning, Token.controlText?, Tag.isVoid, Tag.name, List.lookup_cons, Token.leading]
  | _ => simp [Token.textOf?, Widget.name]

lemma node?_element {tag : Tag} (htag : tag.isVoid = false) (id kind : String)
    (attributes : List (String × String)) (content : List Markup) (rest : List Token) :
    Token.node? ((Markup.element tag
        ([("data-wv-node", id), ("data-wv-kind", kind)] ++ attributes) content).meaning ++ rest)
      = some (id, Token.textOf? kind
          (content.flatMap Markup.meaning ++ .closing tag.name :: rest)) := by
  simp [Markup.meaning, htag, Token.node?, List.lookup_cons]

/-- A node is found where its markup begins. -/
lemma node?_meaning (node : Node) (rest : List Token) :
    Token.node? (node.markup.meaning ++ rest) = some node.shown := by
  rcases drawsButtons_cases node.widget with
    ⟨popupId, title, hwidget⟩ | ⟨message, actionLabel, hwidget⟩ | hwidget
  · obtain ⟨scrimCss, cardCss, hmarkup⟩ := markup_popup hwidget
    have hnode := @node?_element .div rfl node.id node.widget.name
      [("data-wv-interactive", "true"), ("style", scrimCss)]
    rw [List.cons_append, List.singleton_append] at hnode
    rw [hmarkup, hnode, shown, text?, hwidget]
    rfl
  · rw [markup_snackbar hwidget, element, List.append_assoc, node?_element rfl, shown, text?,
      hwidget]
    rfl
  · rw [markup_of_drawsButtons hwidget, element, List.append_assoc,
      node?_element (isVoid_widgetTag _), textOf?_content]
    rfl

lemma says_of_markup {node : Node} {tag : Tag} {attributes : List (String × String)}
    {content : List Markup} (hmarkup : node.markup = .element tag attributes content)
    (htag : tag.isVoid = false) {found : List (String × Option String)}
    (h : Says content found) : Says [node.markup] (node.shown :: found) := by
  have hnode := node.node?_meaning
  rw [hmarkup] at hnode ⊢
  exact .node htag h hnode

/-- A flat button is read as the button that it is drawn for. -/
lemma says_flatButton {node : Node} (h : node.IsButton) (css : String) :
    Says [node.flatButton css] [node.shown] := by
  obtain ⟨-, caption, glyph, hwidget⟩ := h
  have hshown : node.shown = (node.id, none) := by
    rw [shown, text?, hwidget]
  simp only [flatButton, element, hwidget, List.append_assoc]
  refine .node rfl (Says.text _) fun rest => ?_
  rw [node?_element rfl, hshown]
  rfl

lemma shown_arranged (node : Node) : node.arranged.shown = node.shown := by
  rw [arranged_eq]
  rfl

/-- The nodes that are found in the element of a node, in their order. -/
def found (node : Node) : List (String × Option String) :=
  node.arranged.preorder.map shown

lemma found_eq (node : Node) :
    node.found = node.shown :: (arrange node.widget node.children).flatMap found := by
  have hchildren : node.arranged.children = (arrange node.widget node.children).map arranged := by
    rw [arranged_eq, ← arrange_map]
  rw [found, preorder_eq, List.map_cons, shown_arranged, preorderAll_eq_flatMap, hchildren,
    List.map_flatMap, List.flatMap_map]
  rfl

lemma IsButton.found_eq {node : Node} (h : node.IsButton) : node.found = [node.shown] := by
  obtain ⟨hchildren, caption, glyph, hwidget⟩ := h
  rw [Node.found_eq, hchildren, hwidget]
  rfl

variable {node : Node}

lemma says_popup {popupId : String} {title : Option String} (hself : node.Faithful)
    (hwidget : node.widget = .popup popupId title)
    (hbelow : ∀ child ∈ node.children, Says [child.markup] child.found) :
    Says [node.markup] node.found := by
  obtain ⟨scrimCss, cardCss, hmarkup⟩ := markup_popup hwidget
  have hheading : Says (title.toList.map fun title =>
      .element .heading [("style", "margin:0;font-size:20px;")] [.text title]) [] := by
    refine Markup.says_of_marks ?_
    cases title <;> simp [Markup.mark?, Tag.isVoid]
  have hkept : Says ((node.children.eraseP closesPopup).map markup)
      ((node.children.eraseP closesPopup).flatMap found) :=
    .map fun child hchild => hbelow child (List.mem_of_mem_eraseP hchild)
  have hclose : Says ((node.children.find? closesPopup).toList.map
        (flatButton · "align-self:flex-end;color:#2563eb;"))
      ((node.children.find? closesPopup).toList.flatMap found) := by
    refine .map fun child hchild => ?_
    have hfind := Option.mem_toList.mp hchild
    have hbutton := (hself.popup _ _ hwidget).2 child (List.mem_of_find?_eq_some hfind)
      (List.find?_some hfind)
    rw [hbutton.found_eq]
    exact says_flatButton hbutton _
  rw [found_eq, hwidget, arrange, List.flatMap_append]
  exact says_of_markup hmarkup rfl (.element rfl ((hheading.append hkept).append hclose) rfl)

lemma says_snackbar {message : String} {actionLabel : Option String} (hself : node.Faithful)
    (hwidget : node.widget = .snackbar message actionLabel) : Says [node.markup] node.found := by
  have hbuttons : Says (node.children.map snackbarButton) (node.children.flatMap found) := by
    refine .map fun child hchild => ?_
    have hbutton := hself.snackbar _ _ hwidget child hchild
    rw [hbutton.found_eq]
    exact says_flatButton hbutton _
  rw [found_eq, hwidget]
  exact says_of_markup (markup_snackbar hwidget) rfl ((Says.text message).cons hbuttons)

lemma says_plain (hself : node.Faithful) (hwidget : drawsButtons node.widget = false)
    (hbelow : ∀ child ∈ node.children, Says [child.markup] child.found) :
    Says [node.markup] node.found := by
  have hcontent := says_content (Says.map hbelow) node.widget
  rw [found_eq, arrange_of_drawsButtons hwidget]
  refine says_of_markup (markup_of_drawsButtons hwidget) (isVoid_widgetTag _) ?_
  split at hcontent
  · next hleaf =>
    rw [hself.leaf hleaf] at hcontent ⊢
    exact hcontent
  · exact hcontent

/-- In a written tree its nodes are found in the order in which they are drawn. -/
theorem says_markup (node : Node) (h : ∀ n ∈ node.preorder, n.Faithful) :
    Says [node.markup] node.found := by
  induction node using induct with
  | step node ih =>
    have hself : node.Faithful := h node (mem_preorder_self node)
    have hbelow : ∀ child ∈ node.children, Says [child.markup] child.found := fun child hchild =>
      ih child hchild fun n hn => h n (mem_preorder.mpr (.inr ⟨child, hchild, hn⟩))
    rcases drawsButtons_cases node.widget with
      ⟨popupId, title, hwidget⟩ | ⟨message, actionLabel, hwidget⟩ | hwidget
    · exact says_popup hself hwidget hbelow
    · exact says_snackbar hself hwidget
    · exact says_plain hself hwidget hbelow

end Node

/-- An escaped text has no bracket and no quote, every ampersand in it begins an entity, and reading
the entities gives back the text that was escaped; and any text of this form is the escaped form of
what it stands for. So different texts have different escaped forms, and a written tree is read back
with the very values and texts it was made of. Its first node is found with its id and the text that
it shows as a label or in a field, and so are all nodes of a screen, in the order in which they are
drawn. -/
theorem Text.escape_laws (text other : String) (node : Node) (stage : Stage) (session : Session) :
    IsEscaped (escape text).toList
      ∧ unescape (escape text) = text
      ∧ (IsEscaped text.toList ↔ escape (unescape text) = text)
      ∧ (escape text = escape other ↔ text = other)
      ∧ Token.read? node.html = some node.markup.meaning
      ∧ (Token.read? node.html).bind Token.node? = some (node.id, node.text?)
      ∧ (Token.read? (stage.screen session).html).map Token.nodes
        = some ((stage.screen session).arranged.preorder.map fun n => (n.id, n.text?)) := by
  have hescaped (text : String) : IsEscaped (escape text).toList := by
    rw [toList_escape]
    exact isEscaped_escapeChars _
  refine ⟨hescaped text, unescape_escape text, ⟨fun h => ?_, fun h => ?_⟩,
    ⟨fun h => ?_, fun h => ?_⟩, node.read?_html, ?_, ?_⟩
  · rw [escape, unescape, String.toList_ofList, escapeChars_unescapeChars h, String.ofList_toList]
  · rw [← h]
    exact hescaped _
  · rw [← unescape_escape text, h, unescape_escape]
  · rw [h]
  · have hnode := node.node?_meaning []
    rw [List.append_nil] at hnode
    rw [Node.read?_html, Option.bind_some, hnode]
    rfl
  · have hsays := (stage.screen session).says_markup
      (fun n hn => (Stage.onScreen_of_mem hn).faithful) []
    rw [List.flatMap_singleton, List.append_nil, Token.nodes, List.append_nil] at hsays
    rw [Node.read?_html, Option.map_some, hsays]
    rfl

end Wireframe
