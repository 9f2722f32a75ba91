import EmailComposer.Text.Basic

namespace EmailComposer.Html

/-!
# Page trees

A page is a tree of elements with attributes, and of texts and comments between them.
-/

/-- An attribute of an element; it may have no value. -/
structure Attribute where
  name : Text
  value : Option Text
  deriving Repr, DecidableEq

/-- A part of a page. -/
inductive Node where
  | text (content : Text)
  | comment (content : Text)
  | element (name : Text) (attributes : List Attribute) (children : List Node)
  deriving Repr, Inhabited

namespace Node

/-- The part is text. -/
def isText : Node → Bool
  | .text _ => true
  | _ => false

/-- The part is a comment. -/
def isComment : Node → Bool
  | .comment _ => true
  | _ => false

/-- The part is an element of a name. -/
def isElement (name : Text) : Node → Bool
  | .element own _ _ => own = name
  | _ => false

end Node

/-- The attributes of an element. -/
abbrev Attributes := List Attribute

namespace Attributes

/-- The value of the first attribute with a name; a missing value is empty. -/
def get? (attributes : Attributes) (name : Text) : Option Text :=
  (attributes.find? fun entry => entry.name = name).map fun entry => entry.value.getD []

/-- The attributes with a value for a name: in the place of the attribute that has the
name, or at the end. -/
def put (attributes : Attributes) (name value : Text) : Attributes :=
  match attributes with
  | [] => [⟨name, some value⟩]
  | first :: rest =>
      if first.name = name then
        ⟨name, some value⟩ :: rest
      else
        first :: put rest name value

/-- The attributes without those of a name. -/
def erase (attributes : Attributes) (name : Text) : Attributes :=
  attributes.filter fun entry => entry.name ≠ name

end Attributes

/-- Elements that have no content and no end tag. -/
def voidElements : List Text :=
  ["area", "base", "basefont", "br", "col", "frame", "hr", "img", "input", "isindex",
    "link", "meta", "param"]

/-- An element has no content and no end tag. -/
def isVoid (name : Text) : Bool :=
  name ∈ voidElements

end EmailComposer.Html
