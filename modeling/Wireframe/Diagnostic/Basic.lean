import Wireframe.Json.Basic

/-!
# Diagnostics

What is wrong with a document that can still be shown, and where: a location is a path from a tab, a
page or a component.
-/

namespace Wireframe

/-- What can be wrong. -/
inductive Finding where
  | tabWithoutPage
  | missingPage (id : String)
  | missingTabBar (id : String)
  | unknownStyle (name : String)
  | unknownConverter (converter key : String)
  | unknownType (name : String)
  | emptyButton
  | plainBorder
  | listWithoutItems
  | undeclaredAction (action : String)
  | missingComponent (id : String)
deriving DecidableEq, Repr

def Finding.message : Finding → String
  | tabWithoutPage => "Tab has no page"
  | missingPage id => "Tab points at missing page '" ++ id ++ "'"
  | missingTabBar id => "Tab bar '" ++ id ++ "' is not defined"
  | unknownStyle name => "Unknown style '" ++ name ++ "'"
  | unknownConverter converter key =>
    "Unknown converter '" ++ converter ++ "' in '" ++ key ++ "'"
  | unknownType name => "Unknown component type '" ++ name ++ "'"
  | emptyButton => "Button has neither text nor icon"
  | plainBorder => "Border has neither a style nor a variant"
  | listWithoutItems => "CollectionView has no items"
  | undeclaredAction action => "Interaction targets undeclared action '" ++ action ++ "'"
  | missingComponent id => "Reference to missing component '" ++ id ++ "'"

structure Diagnostic where
  location : String
  finding : Finding
deriving DecidableEq, Repr

namespace Diagnostic

def message (diagnostic : Diagnostic) : String := diagnostic.finding.message

/-- The diagnostic in one line. Every finding is a warning. -/
def text (diagnostic : Diagnostic) : String :=
  "[Warning] " ++ diagnostic.location ++ ": " ++ diagnostic.message

def toJson (diagnostic : Diagnostic) : Json :=
  .object
    [("severity", .string "warning"), ("component", .string diagnostic.location),
      ("message", .string diagnostic.message)]

end Diagnostic

end Wireframe
