import EmailComposer.Text.Basic

namespace EmailComposer

/-!
# Style declarations

A style is a list of declarations, each of which gives a value to a property.
-/

open EmailComposer.Text

/-- The value of one property. -/
structure Declaration where
  property : Text
  value : Text
  deriving Repr, DecidableEq

/-- Declarations in order. -/
abbrev Style := List Declaration

namespace Declaration

/-- A declaration with a space behind the colon. -/
def print (declaration : Declaration) : Text :=
  declaration.property ++ ": " ++ declaration.value

/-- A number of pixels. -/
def pixels (value : Int) : Text :=
  ofInt value ++ "px"

end Declaration

namespace Style

/-- Declarations as the value of a style attribute. -/
def print (style : Style) : Text :=
  joinWith ";" (style.map Declaration.print)

end Style

end EmailComposer
