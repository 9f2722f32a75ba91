import EmailComposer.Style.Declaration

namespace EmailComposer

/-!
# The style sheet

Every email carries one style sheet, with a rule for each of a few elements.
-/

open EmailComposer.Text

/-- The style of all elements of a name. -/
structure StyleRule where
  element : Text
  style : Style
  deriving Repr, DecidableEq

namespace StyleRule

/-- The lines of a rule inside a style element. -/
def lines (rule : StyleRule) : List Text :=
  let declarations : List Text :=
    rule.style.map fun declaration => "      " ++ declaration.print ++ ";"
  List.flatten [["    " ++ rule.element ++ " \x7b"], declarations, ["    \x7d"]]

end StyleRule

namespace Stylesheet

/-- The typefaces of an email. -/
def typefaces : Text :=
  "-apple-system, BlinkMacSystemFont, 'Segoe UI', Roboto, 'Helvetica Neue', Arial, " ++
    "sans-serif"

/-- The rules of the style sheet. -/
def rules : List StyleRule :=
  [⟨"body",
      [⟨"margin", "0"⟩, ⟨"padding", "0"⟩, ⟨"font-family", typefaces⟩,
        ⟨"line-height", "1.6"⟩, ⟨"color", "#1a1a1a"⟩]⟩,
    ⟨"table", [⟨"border-collapse", "collapse"⟩]⟩,
    ⟨"img",
      [⟨"display", "block"⟩, ⟨"outline", "none"⟩, ⟨"border", "none"⟩,
        ⟨"text-decoration", "none"⟩]⟩,
    ⟨"a", [⟨"color", "inherit"⟩, ⟨"text-decoration", "none"⟩]⟩]

/-- The lines of the style element. -/
def lines : List Text :=
  List.flatten [["  <style type=\"text/css\">"], rules.flatMap StyleRule.lines, ["  </style>"]]

end Stylesheet

end EmailComposer
