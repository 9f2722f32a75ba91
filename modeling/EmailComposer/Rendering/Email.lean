import EmailComposer.Rendering.Inline
import EmailComposer.Rendering.Page

namespace EmailComposer.Document

/-!
# Emails

The finished email of a document, with the style sheet in its head or with the rules
of the sheet written into the elements.
-/

/-- The email of a document. -/
def render (settings : Settings) (inlineStyles : Bool) (document : Document) : Text :=
  let page := Rendering.page settings document
  if inlineStyles then
    Rendering.inlinePage page
  else
    page

end EmailComposer.Document
