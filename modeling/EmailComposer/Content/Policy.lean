import EmailComposer.Block.Basic
import EmailComposer.Markup.Plain
import EmailComposer.Token.Mask

namespace EmailComposer

/-!
# Content policies

The type of a block decides which tags its text may hold and whether formatting
tokens stay in it. Where no tag is allowed the text is reduced to plain text.
-/

open EmailComposer.Text
open EmailComposer.Markup
open EmailComposer.Token

/-- What the text of a block may hold besides personal tokens. -/
structure ContentPolicy where
  allowedTags : List Text
  keepsFormatting : Bool
  deriving Repr, DecidableEq

namespace ContentPolicy

/-- Tags that set a run of text off. -/
def emphasisTags : List Text :=
  ["strong", "b", "em", "i"]

/-- Tags that may stand inside a line. -/
def inlineTags : List Text :=
  ["strong", "b", "em", "i", "u", "a", "br"]

/-- No markup at all. -/
def plain : ContentPolicy :=
  ⟨[], false⟩

/-- Text without tags: every tag is dropped and the rest is escaped. -/
def sanitizePlain (text : Text) : Sanitized :=
  let tags := (segments text).filterMap Segment.tag?
  ⟨escape (plainText text), tags.map fun tag => ⟨tag.dropKind, tag.raw⟩⟩

/-- Sanitizes a text whose tokens are masked. -/
def sanitizeMasked (policy : ContentPolicy) (masked : Masked) : Sanitized :=
  if policy.allowedTags.isEmpty then
    sanitizePlain masked.text
  else
    sanitizeDetailed masked.text policy.allowedTags (some masked.formattingMarker)

/-- Sanitizes a text: its tokens are masked, the rest is sanitized, and the tokens
are put back. Dropped tokens come before dropped markup. -/
def sanitize (policy : ContentPolicy) (text : Text) : Sanitized :=
  let masked := mask text policy.keepsFormatting
  let sanitized := policy.sanitizeMasked masked
  ⟨restore sanitized.html masked.placeholders, masked.dropped ++ sanitized.dropped⟩

end ContentPolicy

namespace BlockType

/-- What the text of a type of blocks may hold. Boxes are not expanded, so they
keep no formatting tokens. -/
def policy : BlockType → ContentPolicy
  | .title => ⟨ContentPolicy.emphasisTags, true⟩
  | .paragraph => ⟨ContentPolicy.inlineTags, true⟩
  | .highlightBox => ⟨ContentPolicy.inlineTags, false⟩
  | .image => .plain
  | .button => .plain
  | .divider => .plain

/-- The sanitized text of a type of blocks. -/
def sanitizeText (type : BlockType) (text : Text) : Text :=
  (type.policy.sanitize text).html

end BlockType

/-- What sanitizing did to one text, for the one who wrote it. -/
structure SanitizationReport where
  submitted : Text
  sanitized : Text
  warnings : List Text
  deriving Repr, DecidableEq

namespace SanitizationReport

/-- The warning about a dropped item. -/
def warning (item : DroppedItem) : Text :=
  item.kind.warning ++ item.detail

/-- The report on a text of a type of blocks. -/
def ofText (type : BlockType) (text : Text) : SanitizationReport :=
  let sanitized := type.policy.sanitize text
  ⟨text, sanitized.html, sanitized.dropped.map warning⟩

/-- The number of items that were removed. -/
def removedCount (report : SanitizationReport) : Nat :=
  report.warnings.length

/-- Nothing was removed. -/
def success (report : SanitizationReport) : Bool :=
  report.warnings.isEmpty

end SanitizationReport

end EmailComposer
