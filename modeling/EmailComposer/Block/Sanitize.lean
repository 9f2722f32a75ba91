import EmailComposer.Block.Basic
import EmailComposer.Content.Policy
import EmailComposer.Text.Quoted
import EmailComposer.Url.Check

namespace EmailComposer

/-!
# Sanitized blocks

Sanitizing a block replaces its text, label or alternative text and keeps all other
fields. A button or an image whose URL cannot be used is refused, unless the URL is
left for the validator to report.
-/

open EmailComposer.Text
open EmailComposer.Markup

/-- The fields that must hold a usable URL. -/
inductive UrlField where
  | buttonTarget
  | imageSource
  deriving Repr, DecidableEq

namespace UrlField

/-- The name of a field. -/
def name : UrlField → Text
  | .buttonTarget => "href"
  | .imageSource => "src"

/-- What is wrong with an unusable URL in a field. -/
def reason : UrlField → Text
  | .buttonTarget => "Invalid URL in button"
  | .imageSource => "Invalid HTTPS URL for image"

/-- A field of an image must hold a secure URL. -/
def requiresSecure : UrlField → Bool
  | .buttonTarget => false
  | .imageSource => true

end UrlField

/-- An unusable URL in a block. -/
structure UrlRejection where
  blockId : Text
  field : UrlField
  value : Text
  deriving Repr, DecidableEq

namespace UrlRejection

/-- The wording of a rejection. -/
def message (rejection : UrlRejection) : Text :=
  rejection.field.reason ++ " in block " ++ quoted rejection.blockId ++ ": " ++
    quoted rejection.value

end UrlRejection

namespace Block

/-- The field of a block that must hold a usable URL, and its value. -/
def urlField? : Block → Option (UrlField × Text)
  | .button block => some (.buttonTarget, block.href)
  | .image block => some (.imageSource, block.src)
  | _ => none

/-- The unusable URL of a block, if it has one. -/
def urlRejection? (block : Block) : Option UrlRejection :=
  match block.urlField? with
  | some (field, value) =>
      if Url.isUsable field.requiresSecure value then
        none
      else
        some ⟨block.id, field, value⟩
  | none => none

/-- A block with its text, label or alternative text sanitized. -/
def sanitizeContent : Block → Block
  | .title block => .title { block with content := BlockType.title.sanitizeText block.content }
  | .paragraph block =>
      .paragraph { block with content := BlockType.paragraph.sanitizeText block.content }
  | .image block => .image { block with alt := plainField block.alt }
  | .button block => .button { block with label := plainField block.label }
  | .divider block => .divider block
  | .highlightBox block =>
      .highlightBox { block with content := BlockType.highlightBox.sanitizeText block.content }

/-- Sanitizes a block. With strict URLs a block is refused because of its URL, otherwise the
URL is left to the validator. -/
def sanitizeWith (strictUrls : Bool) (block : Block) : Except UrlRejection Block :=
  match block.urlRejection? with
  | some rejection =>
      if strictUrls then
        .error rejection
      else
        .ok block.sanitizeContent
  | none => .ok block.sanitizeContent

/-- Sanitizes a block, or refuses it because of its URL. -/
def sanitize (block : Block) : Except UrlRejection Block :=
  block.sanitizeWith true

end Block

end EmailComposer
