import EmailComposer.Markup.Entity
import EmailComposer.Markup.Segment
import EmailComposer.Url.Check

namespace EmailComposer.Markup

/-!
# Sanitized markup

Sanitizing keeps the allowed tags with filtered attributes and escapes all text.
What is not recognised as safe is dropped, and each dropped item is recorded.
-/

open EmailComposer.Text

/-- Why an item was dropped. -/
inductive DropKind where
  | dangerousTag
  | disallowedTag
  | disallowedAttribute
  | unsafeUrl
  | token
  deriving Repr, DecidableEq

namespace DropKind

/-- The name under which a kind is reported. -/
def name : DropKind → Text
  | .dangerousTag => "dangerous_tag"
  | .disallowedTag => "disallowed_tag"
  | .disallowedAttribute => "attribute"
  | .unsafeUrl => "unsafe_url"
  | .token => "token"

/-- The beginning of the warning about an item of a kind. -/
def warning : DropKind → Text
  | .dangerousTag => "Removed dangerous tag: "
  | .disallowedTag => "Removed disallowed tag: "
  | .disallowedAttribute => "Removed attribute: "
  | .unsafeUrl => "Removed unsafe URL: "
  | .token => "Removed unsupported token: "

end DropKind

/-- An item that sanitizing removed. -/
structure DroppedItem where
  kind : DropKind
  detail : Text
  deriving Repr, DecidableEq

/-- The sanitized form of a markup and what was removed from it. -/
structure Sanitized where
  html : Text
  dropped : List DroppedItem
  deriving Repr, DecidableEq

/-- Tags that are dropped whatever is allowed. -/
def dangerousTags : List Text :=
  ["script", "iframe", "object", "embed", "form", "input", "button", "textarea",
    "style", "link", "meta", "base"]

/-- Attributes that are dropped whatever is allowed, event handlers among them. -/
def dangerousAttributes : List Text :=
  ["onload", "onerror", "onclick", "onmouseover", "onmouseout", "onmousemove",
    "onmouseenter", "onmouseleave", "onchange", "onfocus", "onblur", "onsubmit",
    "onkeydown", "onkeyup", "onkeypress", "ondblclick", "ondrag", "ondrop", "onwheel",
    "onscroll", "style", "class", "id"]

/-- The attributes whose value is a URL. -/
def urlAttributes : List Text :=
  ["href", "src"]

/-- The attributes a tag may carry. -/
def allowedAttributes (tagName : Text) : List Text :=
  if tagName = "a" then
    ["href"]
  else if tagName = "img" then
    ["src", "alt", "width", "height"]
  else
    []

/-- An attribute name that no list of allowed names can admit. -/
def isDangerousAttribute (name : Text) : Bool :=
  name ∈ dangerousAttributes || startsWith "on" name

/-- The attributes kept so far, in order, and the items dropped so far. -/
structure FilteredAttributes where
  kept : List Attribute
  dropped : List DroppedItem
  deriving Repr, DecidableEq

namespace FilteredAttributes

/-- The filter before the first attribute. -/
def empty : FilteredAttributes :=
  ⟨[], []⟩

/-- Records a dropped item. -/
def drop (filtered : FilteredAttributes) (kind : DropKind) (detail : Text) :
    FilteredAttributes :=
  { filtered with dropped := filtered.dropped ++ [⟨kind, detail⟩] }

/--
Filters one more attribute of a tag.

The first acceptable value of a name is kept and escaped. A value that holds the
marker is dropped, because formatting expands to markup and may stand in text
only; a URL without an allowed protocol is dropped too.
-/
def add
    (tagName : Text)
    (allowed : List Text)
    (marker : Option Text)
    (filtered : FilteredAttributes)
    (candidate : Attribute) : FilteredAttributes :=
  let name := lower candidate.1
  let value := candidate.2
  let place := tagName ++ "." ++ name
  if isDangerousAttribute name || name ∉ allowed then
    filtered.drop .disallowedAttribute place
  else if filtered.kept.any fun earlier => earlier.1 = name then
    filtered
  else if marker.any fun text => !text.isEmpty && includes text value then
    filtered.drop .token place
  else if name ∈ urlAttributes && !Url.hasAllowedProtocol value then
    filtered.drop .unsafeUrl (place ++ "=" ++ value)
  else
    { filtered with kept := filtered.kept ++ [(name, escape value)] }

end FilteredAttributes

/-- Filters the attributes of a tag by a list of allowed names in any case. -/
def filterAttributes
    (tagName : Text)
    (attributes : List Attribute)
    (allowed : List Text)
    (marker : Option Text) : FilteredAttributes :=
  attributes.foldl (FilteredAttributes.add tagName (allowed.map lower) marker) .empty

/-- The attributes of a tag that survive a list of allowed names, by default the
names that the tag may carry. -/
def sanitizeAttributes
    (tagName : Text)
    (attributes : List Attribute)
    (allowed : Option (List Text)) : List Attribute :=
  let tagName := lower tagName
  (filterAttributes tagName attributes (allowed.getD (allowedAttributes tagName)) none).kept

/-- An attribute inside an opening tag, with the space before it. -/
def printAttribute (entry : Attribute) : Text :=
  " " ++ entry.1 ++ "=\"" ++ entry.2 ++ "\""

namespace Tag

/-- The tag in normal form: a closing tag without attributes, an opening tag with
those that survive the filter. -/
def rebuild (marker : Option Text) (tag : Tag) : Sanitized :=
  if tag.closing then
    ⟨"</" ++ tag.name ++ ">", []⟩
  else
    let filtered := filterAttributes tag.name tag.attributes (allowedAttributes tag.name) marker
    let closer : Text := if tag.selfClosing then " />" else ">"
    ⟨"<" ++ tag.name ++ filtered.kept.flatMap printAttribute ++ closer, filtered.dropped⟩

/-- The kind under which a tag that does not survive is dropped. -/
def dropKind (tag : Tag) : DropKind :=
  if tag.name ∈ dangerousTags then
    .dangerousTag
  else
    .disallowedTag

end Tag

namespace Segment

/-- The sanitized form of one segment. -/
def sanitize (allowed : List Text) (marker : Option Text) : Segment → Sanitized
  | .text raw => ⟨escape raw, []⟩
  | .tag element =>
      if element.name ∈ dangerousTags || element.name ∉ allowed then
        ⟨[], [⟨element.dropKind, element.raw⟩]⟩
      else
        element.rebuild marker

end Segment

/-- Sanitizes markup and records what was dropped. Attribute values that hold the
marker are dropped. -/
def sanitizeDetailed
    (html : Text)
    (allowedTags : List Text)
    (marker : Option Text) : Sanitized :=
  let parts := (segments html).map (Segment.sanitize (allowedTags.map lower) marker)
  ⟨parts.flatMap Sanitized.html, parts.flatMap Sanitized.dropped⟩

/-- Keeps only the allowed tags, with filtered attributes, and escapes all text. -/
def sanitize (html : Text) (allowedTags : List Text) : Text :=
  (sanitizeDetailed html allowedTags none).html

end EmailComposer.Markup
