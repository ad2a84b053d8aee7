import Wireframe.Proofs.Nesting
import Wireframe.Proofs.ScreenElements

/-!
# Nodes in the written screen

A node is written within its parent as it is written by itself, but for the buttons of popups and
snackbars. So the text of everything that comes to be drawn is found in the text of the screen
(`Stage.Placed.occurs_screen`).
-/

namespace Wireframe

/-! ### Texts within texts -/

/-- Whether a text is found in another one. -/
def Text.Occurs (inner outer : String) : Prop :=
  ∃ before after, outer = before ++ inner ++ after

namespace Text.Occurs

variable {inner middle outer : String}

lemma refl (text : String) : Occurs text text :=
  ⟨"", "", by rw [String.empty_append, String.append_empty]⟩

lemma trans (h : Occurs inner middle) (h' : Occurs middle outer) : Occurs inner outer := by
  obtain ⟨before, after, rfl⟩ := h
  obtain ⟨start, rest, rfl⟩ := h'
  exact ⟨start ++ before, after ++ rest, by simp only [String.append_assoc]⟩

lemma append_left (h : Occurs inner outer) (text : String) : Occurs inner (text ++ outer) := by
  obtain ⟨before, after, rfl⟩ := h
  exact ⟨text ++ before, after, by simp only [String.append_assoc]⟩

lemma append_right (h : Occurs inner outer) (text : String) : Occurs inner (outer ++ text) := by
  obtain ⟨before, after, rfl⟩ := h
  exact ⟨before, after ++ text, by simp only [String.append_assoc]⟩

end Text.Occurs

open Text

namespace Markup

lemma occurs_printAll {item : Markup} {items : List Markup} (h : item ∈ items) :
    Occurs item.print (printAll items) := by
  induction items with
  | nil => cases h
  | cons first items ih =>
    rw [printAll]
    rcases List.mem_cons.mp h with rfl | hrest
    · exact (Occurs.refl _).append_right _
    · exact (ih hrest).append_left _

lemma occurs_element {tag : Tag} (htag : tag.isVoid = false) (attributes : List (String × String))
    {child : Markup} {children : List Markup} (h : child ∈ children) :
    Occurs child.print (element tag attributes children).print := by
  simp only [print, htag, Bool.false_eq_true, if_false]
  have hopened := (occurs_printAll h).append_left ("<" ++ tag.name ++ attributesText attributes ++ ">")
  exact ((hopened.append_right "</").append_right tag.name).append_right ">"

end Markup

/-! ### Nodes within their parents -/

namespace Node

/-- Widgets that are no leaves have a place for what is drawn in them, as it is. -/
lemma occurs_content {widget : Widget} (hbuttons : drawsButtons widget = false)
    (hleaf : isLeaf widget = false) {item : Markup} {drawn : List Markup} (h : item ∈ drawn) :
    ∃ outer ∈ content drawn widget, Occurs item.print outer.print := by
  have hmem : item ∈ content drawn widget →
      ∃ outer ∈ content drawn widget, Occurs item.print outer.print :=
    fun hitem => ⟨item, hitem, .refl _⟩
  cases widget with
  | swipe left right =>
    have hdiv : Tag.div.isVoid = false := rfl
    refine ⟨_, ?_, Markup.occurs_element hdiv [("style", "flex:1 1 auto;")] h⟩
    simp [content]
  | popup | snackbar => cases hbuttons
  | screen | page | card | radioGroup => exact hmem (by simp [content, h])
  | tabBar | stack | grid | flex | overlay | collection | collectionItem | emptyView => exact hmem h
  | _ => cases hleaf

variable {node child : Node}

lemma Plain.occurs_html (hplain : node.Plain) (h : child ∈ node.children) :
    Occurs child.html node.html := by
  have hleaf : isLeaf node.widget = false := by
    rw [Bool.eq_false_iff]
    intro htrue
    rw [hplain.leaf htrue] at h
    cases h
  obtain ⟨outer, houter, hoccurs⟩ :=
    occurs_content hplain.buttons hleaf (List.mem_map_of_mem (f := markup) h)
  rw [html, html, markup_of_drawsButtons hplain.buttons]
  exact hoccurs.trans (Markup.occurs_element (isVoid_widgetTag _) _ houter)

/-- What does not close the popup is written on its card. -/
lemma occurs_html_popup {popupId : String} {title : Option String}
    (hwidget : node.widget = .popup popupId title) (h : child ∈ node.children)
    (hcloses : child.closesPopup = false) : Occurs child.html node.html := by
  have hkept : child ∈ node.children.eraseP closesPopup :=
    (List.mem_eraseP_of_neg (by rw [hcloses]; exact Bool.false_ne_true)).mpr h
  obtain ⟨scrimCss, cardCss, hmarkup⟩ := markup_popup hwidget
  rw [html, html, hmarkup]
  refine Occurs.trans ?_ (Markup.occurs_element rfl _ (List.mem_singleton_self _))
  refine Markup.occurs_element rfl _ ?_
  simp only [List.mem_append]
  exact .inl (.inr (List.mem_map_of_mem hkept))

end Node

/-- Everything that is to be drawn below a component is written within it, perhaps in a frame. -/
lemma Site.occurs_html {site : Site} {draw : Draw} {cue : Cue} (h : cue ∈ site.cues) :
    Occurs (cue.draw draw).html (site.node draw).html := by
  obtain ⟨part, hpart, hcue⟩ := List.mem_filterMap.mp h
  have hbelow : part.draw draw site.handed ∈ (site.node draw).children := by
    rw [node_eq]
    exact List.mem_map_of_mem hpart
  have hwritten := (site.plain_node draw).occurs_html hbelow
  cases site.of_parts part hpart with
  | child _ => cases hcue; exact hwritten
  | @framed frame item content id hframe _ =>
    cases hcue
    have hplain : (Part.draw draw site.handed (.framed frame item content id)).Plain :=
      Node.IsFrame.plain hframe
    exact (hplain.occurs_html (List.mem_singleton_self _)).trans hwritten
  | labelled id text index => cases hcue

/-! ### Nodes within the screen -/

namespace Stage

variable {stage : Stage} {session : Session} {depth : Nat} {cue : Cue}

lemma closesPopup_draw : (cue.draw (stage.drawAt session depth)).closesPopup = false := by
  have hdrawn : stage.Drawn (fun _ => True) (cue.draw (stage.drawAt session depth)) :=
    drawn_of_mem (.start trivial) (Node.mem_preorder_self _)
  exact hdrawn.closesPopup

lemma Begun.occurs_screen (h : stage.Begun session depth cue) :
    Occurs (cue.draw (stage.drawAt session depth)).html (stage.screen session).html := by
  have hscreen : ∀ region ∈ (stage.screen session).children,
      Occurs region.html (stage.screen session).html :=
    fun _ => Node.Plain.occurs_html (.of_inner rfl rfl)
  have hpopup : ∀ {popupId component}, session.openPopup = some popupId →
      stage.document.component? popupId = some component → stage.Begun session 1 cue →
        Occurs (cue.draw (stage.drawAt session 1)).html (stage.screen session).html := by
    intro popupId component hopen hfound hbegun
    obtain ⟨title, hwidget, -⟩ := @widget_popup stage session _ _ hfound
    have hchild := (mem_children_popup hopen hfound).mpr (.inr ⟨cue, hbegun, rfl⟩)
    refine (Node.occurs_html_popup hwidget hchild closesPopup_draw).trans (hscreen _ ?_)
    simp [screen, hopen]
  cases h with
  | page hpage hlayout =>
    have hchild := mem_children_page.mpr ⟨_, .page hpage hlayout, rfl⟩
    refine (plain_page.occurs_html hchild).trans (hscreen _ ?_)
    simp [screen]
  | content hopen hfound h => exact hpopup hopen hfound (.content hopen hfound h)
  | child hopen hfound h => exact hpopup hopen hfound (.child hopen hfound h)
  | footer hopen hfound h => exact hpopup hopen hfound (.footer hopen hfound h)

/-- Down to the limit, what comes to be drawn is written within the screen as it is by itself. -/
theorem Placed.occurs_screen (h : stage.Placed session depth cue) (hdepth : depth ≤ maxDepth) :
    Occurs (cue.draw (stage.drawAt session depth)).html (stage.screen session).html := by
  induction h with
  | begun h => exact h.occurs_screen
  | inner _ hcomponent hnext ih =>
    have habove := ih (Nat.le_of_succ_le hdepth)
    rw [draws_drawAt.shallow _ hdepth, hcomponent] at habove
    exact (Site.occurs_html hnext).trans habove

end Stage

end Wireframe
