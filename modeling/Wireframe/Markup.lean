import Wireframe.Text.Entity

/-!
# Markup

Elements with attributes and children, and their written form. Texts and attribute values are
written with entities, so that what a document says cannot become a tag or an attribute.
-/

namespace Wireframe

/-- The elements that a preview is made of. -/
inductive Tag where
  | div
  | main
  | nav
  | region
  | span
  | button
  | label
  | fieldset
  | legend
  | heading
  | input
  | textarea
deriving DecidableEq, Repr

namespace Tag

def name : Tag → String
  | div => "div"
  | main => "main"
  | nav => "nav"
  | region => "section"
  | span => "span"
  | button => "button"
  | label => "label"
  | fieldset => "fieldset"
  | legend => "legend"
  | heading => "h2"
  | input => "input"
  | textarea => "textarea"

/-- Elements without content, which are not closed. -/
def isVoid : Tag → Bool
  | input => true
  | _ => false

end Tag

inductive Markup where
  | text (text : String)
  | element (tag : Tag) (attributes : List (String × String)) (children : List Markup)

namespace Markup

/-- Attributes in their written form, each after a space. -/
def attributesText : List (String × String) → String
  | [] => ""
  | (name, value) :: rest =>
    " " ++ name ++ "=\"" ++ Text.escape value ++ "\"" ++ attributesText rest

mutual
/-- The written form. -/
def print : Markup → String
  | text content => Text.escape content
  | element tag attributes children =>
    let opening := "<" ++ tag.name ++ attributesText attributes ++ ">"
    if tag.isVoid then opening
    else opening ++ printAll children ++ "</" ++ tag.name ++ ">"

def printAll : List Markup → String
  | [] => ""
  | item :: items => print item ++ printAll items
end

/-- A span with a style that holds a text. -/
def styledSpan (css content : String) : Markup :=
  element .span [("style", css)] [text content]

end Markup

end Wireframe
