import EmailComposer.Style.Color
import EmailComposer.Token.Mask

namespace EmailComposer.Token

/-!
# Expanded formatting tokens

A formatting token opens with its kind and a specification and closes with its
kind. Text between them becomes a styled span or a link. There are three passes,
one for each kind, and each works on the result of the one before. A token whose
specification means nothing is neutralised and recorded: a bold one stays as it
is written, the others leave the text between their markers.
-/

open EmailComposer.Text
open EmailComposer.Markup

/-- A formatting token around some text of one line. -/
structure Span where
  spec : Text
  content : Text
  deriving Repr, DecidableEq

/-- The opening marker of a kind without its specification. -/
def openingMarker (kind : Kind) : Text :=
  "\x7b\x7b" ++ kind.name ++ ":"

/-- The closing marker of a kind. -/
def closingMarker (kind : Kind) : Text :=
  "\x7b\x7b/" ++ kind.name ++ "\x7d\x7d"

/-- The text before the first occurrence of `ending` on the same line, and what
follows that occurrence. -/
def upToOnLine? (ending : Text) : Text → Option (Text × Text)
  | [] => (after? ending []).map fun rest => ([], rest)
  | first :: others =>
      match after? ending (first :: others) with
      | some rest => some ([], rest)
      | none =>
          if first == '\n' then
            none
          else
            (upToOnLine? ending others).map fun found => (first :: found.1, found.2)

/-- A span of a kind, with an accepted specification, at the beginning of a text. -/
def readSpan? (kind : Kind) (accepts : Text → Bool) (text : Text) : Option (Span × Text) :=
  match after? (openingMarker kind) text with
  | none => none
  | some inner =>
      let spec := inner.takeWhile (· != '\x7d')
      if accepts spec then
        match after? "\x7d\x7d" (inner.dropWhile (· != '\x7d')) with
        | none => none
        | some body =>
            (upToOnLine? (closingMarker kind) body).map fun found => (⟨spec, found.1⟩, found.2)
      else
        none

theorem length_of_upToOnLine?
    {ending text content rest : Text}
    (found : upToOnLine? ending text = some (content, rest)) :
    rest.length ≤ text.length := by
  induction text generalizing content rest with
  | nil =>
      obtain ⟨remaining, isAfter, same⟩ := Option.map_eq_some_iff.mp found
      have lengths := length_of_after? isAfter
      cases same
      omega
  | cons first others inductionHypothesis =>
      unfold upToOnLine? at found
      split at found
      · rename_i remaining isAfter
        have lengths := length_of_after? isAfter
        simp only [Option.some.injEq, Prod.mk.injEq] at found
        rw [← found.2]
        omega
      · split at found
        · simp at found
        · obtain ⟨⟨before, remaining⟩, isFound, same⟩ := Option.map_eq_some_iff.mp found
          have short := inductionHypothesis isFound
          cases same
          simp only [List.length_cons]
          omega

theorem openingMarker_eq
    (kind : Kind) :
    openingMarker kind = '{' :: '{' :: (kind.name ++ [':']) := by
  simp [openingMarker]

theorem closingMarker_eq
    (kind : Kind) :
    closingMarker kind = '{' :: '{' :: '/' :: (kind.name ++ ['}', '}']) := by
  simp [closingMarker]

theorem openingMarker_length_pos
    (kind : Kind) :
    0 < (openingMarker kind).length := by
  cases kind <;> decide

theorem length_of_readSpan?
    {kind : Kind}
    {accepts : Text → Bool}
    {text rest : Text}
    {span : Span}
    (found : readSpan? kind accepts text = some (span, rest)) :
    rest.length < text.length := by
  unfold readSpan? at found
  split at found
  · simp at found
  · rename_i inner isInner
    have innerLength := length_of_after? isInner
    have positive := openingMarker_length_pos kind
    have short := length_dropWhile_le (fun char => char != '\x7d') inner
    simp only at found
    split at found
    · split at found
      · simp at found
      · rename_i body isBody
        have bodyLength := length_of_after? isBody
        obtain ⟨⟨content, remaining⟩, isFound, same⟩ := Option.map_eq_some_iff.mp found
        have shorter := length_of_upToOnLine? isFound
        cases same
        show remaining.length < text.length
        omega
    · simp at found

/-- Recognises one span of a kind. -/
def spanPattern (kind : Kind) (accepts : Text → Bool) : Pattern Span where
  read? := readSpan? kind accepts
  uses := length_of_readSpan?

namespace Span

/-- The span as it was written. -/
def raw (kind : Kind) (span : Span) : Text :=
  openingMarker kind ++ span.spec ++ "\x7d\x7d" ++ span.content ++ closingMarker kind

end Span

/-- Why a token was neutralised. -/
inductive Reason where
  | invalidColor
  | noModifier
  | urlNotAllowed
  deriving Repr, DecidableEq

namespace Reason

/-- The wording of a reason. -/
def message : Reason → Text
  | .invalidColor => "invalid color"
  | .noModifier => "no recognised modifier"
  | .urlNotAllowed => "URL not allowed"

end Reason

/-- A token that was neutralised. -/
structure Rejected where
  kind : Kind
  token : Text
  reason : Reason
  deriving Repr, DecidableEq

/-- Expanded text and the tokens that were neutralised on the way. -/
structure Expanded where
  html : Text
  rejected : List Rejected
  deriving Repr, DecidableEq

/-- The weights that a style token may name. -/
inductive Weight where
  | normal
  | semibold
  | bold
  deriving Repr, DecidableEq

namespace Weight

/-- The name of a weight. -/
def name : Weight → Text
  | .normal => "normal"
  | .semibold => "semibold"
  | .bold => "bold"

/-- The number of a weight. -/
def value : Weight → Text
  | .normal => "400"
  | .semibold => "600"
  | .bold => "700"

/-- The weight with a name. -/
def ofName? (name : Text) : Option Weight :=
  [Weight.normal, .semibold, .bold].find? fun weight => weight.name = name

end Weight

/-- The modifiers of a specification, without the blanks around them. -/
def modifiers (spec : Text) : List Text :=
  (fields '|' spec).map strip

/-- The color that a modifier sets. -/
def modifierColor? (modifier : Text) : Option Text :=
  match after? "color:" modifier with
  | some color => if Color.isHexLine color then some color else none
  | none => none

/-- What a style token asks for: a weight, a color, and whether any modifier of it
was recognised. -/
structure StyleSpec where
  weight : Option Weight
  color : Option Text
  recognised : Bool
  deriving Repr, DecidableEq

namespace StyleSpec

/-- Takes one more modifier into account; a later one of its sort wins. -/
def add (style : StyleSpec) (modifier : Text) : StyleSpec :=
  match Weight.ofName? modifier with
  | some weight => { style with weight := some weight, recognised := true }
  | none =>
      match modifierColor? modifier with
      | some color => { style with color := some color, recognised := true }
      | none => style

/-- Reads the specification of a style token. -/
def read (spec : Text) : StyleSpec :=
  (modifiers spec).foldl add ⟨none, none, false⟩

/-- The declarations of the styled span. -/
def declarations (style : StyleSpec) : Text :=
  let color : List Text :=
    match style.color with
    | some color => ["color:" ++ color]
    | none => []
  let weight : List Text :=
    match style.weight with
    | some weight => ["font-weight:" ++ weight.value]
    | none => []
  joinWith ";" (color ++ weight)

end StyleSpec

/-- What a link token asks for. -/
structure LinkSpec where
  url : Text
  bold : Bool
  color : Option Text
  deriving Repr, DecidableEq

namespace LinkSpec

/-- Takes one more modifier into account; unknown ones are ignored. -/
def add (link : LinkSpec) (modifier : Text) : LinkSpec :=
  if modifier = "bold" then
    { link with bold := true }
  else
    match modifierColor? modifier with
    | some color => { link with color := some color }
    | none => link

/-- Reads the specification of a link token: the URL, then modifiers. -/
def read (spec : Text) : LinkSpec :=
  match modifiers spec with
  | [] => ⟨[], false, none⟩
  | url :: others => others.foldl add ⟨url, false, none⟩

end LinkSpec

/-- The color of a link that sets none. -/
def defaultLinkColor : Text :=
  "#008867"

/-- The span that a bold token becomes. -/
def boldHtml (span : Span) : Text :=
  "<span style=\"color:" ++ span.spec ++ ";font-weight:700;\">" ++ span.content ++ "</span>"

/-- The span that a style token becomes. -/
def styleHtml (style : StyleSpec) (content : Text) : Text :=
  "<span style=\"" ++ style.declarations ++ ";\">" ++ content ++ "</span>"

/-- The link that a link token becomes. -/
def linkHtml (link : LinkSpec) (content : Text) : Text :=
  let weight : Text := if link.bold then "700" else "600"
  "<a href=\"" ++ link.url ++ "\" style=\"color:" ++ link.color.getD defaultLinkColor ++
    ";text-decoration:none;font-weight:" ++ weight ++
    ";\" target=\"_blank\" rel=\"noopener noreferrer\">" ++ content ++ "</a>"

/-- The first pass. Bold tokens still there after it have no color. -/
def expandBold (text : Text) : Expanded :=
  let html := (spanPattern .bold Color.isHex).replace boldHtml text
  ⟨html, ((spanPattern .bold fun _ => true).findAll html).map fun span =>
    ⟨.bold, span.raw .bold, .invalidColor⟩⟩

/-- A style token in its expanded form. -/
def expandStyleSpan (span : Span) : Expanded :=
  let style := StyleSpec.read span.spec
  if style.recognised then
    ⟨styleHtml style span.content, []⟩
  else
    ⟨span.content, [⟨.style, span.raw .style, .noModifier⟩]⟩

/-- A link token in its expanded form. -/
def expandLinkSpan (span : Span) : Expanded :=
  let link := LinkSpec.read span.spec
  if Url.isSafeLink link.url then
    ⟨linkHtml link span.content, []⟩
  else
    ⟨span.content, [⟨.link, span.raw .link, .urlNotAllowed⟩]⟩

/-- Expands every span of a kind that has a specification. -/
def expandSpans (kind : Kind) (expandSpan : Span → Expanded) (text : Text) : Expanded :=
  let pattern := spanPattern kind fun spec => !spec.isEmpty
  ⟨pattern.replace (fun span => (expandSpan span).html) text,
    (pattern.findAll text).flatMap fun span => (expandSpan span).rejected⟩

/-- Expands all formatting tokens: bold ones, then styles, then links. -/
def expand (text : Text) : Expanded :=
  let bold := expandBold text
  let style := expandSpans .style expandStyleSpan bold.html
  let link := expandSpans .link expandLinkSpan style.html
  ⟨link.html, bold.rejected ++ style.rejected ++ link.rejected⟩

/-- The text with its formatting tokens as markup. -/
def format (text : Text) : Text :=
  (expand text).html

end EmailComposer.Token
