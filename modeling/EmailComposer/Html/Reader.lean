import EmailComposer.Html.Token

namespace EmailComposer.Html

/-!
# Pages read from text

Reading a page forgives whatever is wrong with it. A start tag closes the elements
that cannot hold it; an end tag closes what is still open inside its element, and
means nothing where its element is not open or a stronger element is in between. The
elements of the page itself open where they are needed, and their tags mean nothing
where they are out of place. Reading is over where elements are nested too deeply.
-/

open EmailComposer.Text

/-! ## Open elements -/

/-- An element that is still open, with its children in reverse order. -/
structure Frame where
  name : Text
  attributes : Attributes
  children : List Node
  deriving Repr

/-- The open elements, the innermost one first; the last frame, which has no name, stands
for the document. -/
abbrev Frames := List Frame

namespace Frames

/-- The frames of an empty document. -/
def empty : Frames :=
  [⟨[], [], []⟩]

/-- The number of open elements. -/
def depth (frames : Frames) : Nat :=
  frames.length - 1

/-- The name of the innermost element; the document has none. -/
def innermost : Frames → Text
  | top :: _ => top.name
  | [] => []

/-- An element of a name is open. -/
def isOpen (name : Text) (frames : Frames) : Bool :=
  frames.any fun frame => frame.name = name

/-- A part added to the innermost element. -/
def add (node : Node) : Frames → Frames
  | [] => []
  | top :: rest => { top with children := node :: top.children } :: rest

/-- The innermost element closed. The document itself stays open. -/
def pop : Frames → Frames
  | top :: next :: rest =>
      add (.element top.name top.attributes top.children.reverse) (next :: rest)
  | frames => frames

/-- As many of the innermost elements closed. -/
def popMany : Nat → Frames → Frames
  | 0, frames => frames
  | count + 1, frames => popMany count (pop frames)

/-- The parts of the document once everything is closed. -/
def close (frames : Frames) : List Node :=
  match popMany frames.length frames with
  | document :: _ => document.children.reverse
  | [] => []

end Frames

/-! ## What tags close -/

/-- The headings. -/
def headings : List Text :=
  ["h1", "h2", "h3", "h4", "h5", "h6"]

/-- Paragraphs, and preformatted text of old and new kinds. -/
def plainBlocks : List Text :=
  ["p", "pre", "listing", "xmp"]

/-- Elements that only set the look of text. -/
def fontStyles : List Text :=
  ["b", "big", "i", "s", "small", "strike", "tt", "u"]

/-- What comes before the rows of a table. -/
def tableHeadings : List Text :=
  ["caption", "col", "colgroup"]

/-- The cells of a table. -/
def cells : List Text :=
  ["td", "th"]

/-- The innermost elements that a start tag closes, paragraphs and the head of the page
aside. -/
def closedByStart (start : Text) : List Text :=
  match String.ofList start with
  | "a" => ["a"]
  | "address" | "menu" | "pre" => ["ul"]
  | "body" | "frameset" => ["link", "style", "title"]
  | "center" => ["b", "font", "i"]
  | "col" => ["caption", "col"]
  | "colgroup" | "thead" => tableHeadings
  | "dd" | "dl" => ["address", "dir", "dt", "listing", "menu", "pre", "xmp"]
  | "dt" => ["address", "dd", "dir", "listing", "menu", "pre", "xmp"]
  | "fieldset" => "a" :: "legend" :: (headings ++ plainBlocks)
  | "form" =>
      "address" :: "dir" :: "dl" :: "form" :: "hr" :: "menu" :: "ol" :: "ul" ::
        (headings ++ plainBlocks)
  | "li" => "address" :: "dl" :: "li" :: (headings ++ plainBlocks)
  | "noscript" => ["script"]
  | "optgroup" | "option" => ["option"]
  | "p" => headings ++ fontStyles
  | "table" => "a" :: (headings ++ plainBlocks)
  | "tbody" => "tbody" :: "tfoot" :: "thead" :: "tr" :: (cells ++ tableHeadings)
  | "td" | "th" => "a" :: "b" :: "font" :: "span" :: "u" :: cells
  | "tfoot" => "tbody" :: "thead" :: "tr" :: (cells ++ tableHeadings)
  | "tr" => "tr" :: (cells ++ tableHeadings)
  | "ul" => ["address", "dir", "listing", "menu", "pre"]
  | _ => []

/-- Start tags that close a paragraph. -/
def closesParagraph : List Text :=
  List.map String.toList
    ["address", "blockquote", "body", "caption", "center", "col", "colgroup", "dd", "dir", "div",
      "dl", "dt", "fieldset", "form", "frameset", "h1", "h2", "h3", "h4", "h5", "h6", "head",
      "hr", "li", "listing", "menu", "ol", "p", "pre", "table", "tbody", "td", "tfoot", "th",
      "title", "tr", "ul", "xmp"]

/-- Start tags that close the head of a page. -/
def closesHead : List Text :=
  List.map String.toList
    ["a", "abbr", "acronym", "address", "b", "bdo", "big", "blockquote", "body", "br", "center",
      "cite", "code", "dd", "dfn", "dir", "div", "dl", "dt", "em", "fieldset", "font", "form",
      "frameset", "h1", "h2", "h3", "h4", "h5", "h6", "hr", "i", "iframe", "img", "kbd", "li",
      "listing", "map", "menu", "ol", "p", "pre", "q", "s", "samp", "small", "span", "strike",
      "strong", "sub", "sup", "table", "tt", "u", "ul", "var", "xmp"]

/-- A start tag closes an element that is innermost. -/
def isClosedByStart (start element : Text) : Bool :=
  if element = "head" then
    start ∈ closesHead
  else if element = "p" then
    start ∈ closesParagraph
  else
    element ∈ closedByStart start

/-- The innermost elements closed as long as a start tag closes them; `fuel` bounds how
many there can be. -/
def closeForStart (start : Text) : Nat → Frames → Frames
  | 0, frames => frames
  | fuel + 1, frames =>
      if isClosedByStart start frames.innermost then
        closeForStart start fuel frames.pop
      else
        frames

/-- How strong an element is against the end tags of others. -/
def strength (name : Text) : Nat :=
  let sections : List Text := ["thead", "tbody", "tfoot"]
  if name = "div" then
    150
  else if name = "td" || name = "th" then
    160
  else if name = "tr" then
    170
  else if name ∈ sections then
    180
  else if name = "table" then
    190
  else if name = "head" || name = "body" then
    200
  else if name = "html" then
    220
  else
    100

/-- The number of elements that an end tag closes, itself included; none if its element
is not open or a stronger one is in between. -/
def closedByEnd? (name : Text) : Frames → Option Nat
  | [] => none
  | [_] => none
  | top :: rest =>
      if top.name = name then
        some 1
      else if strength name < strength top.name then
        none
      else
        (closedByEnd? name rest).map (· + 1)

/-! ## Pages in the making -/

/-- A page as far as it is read: its open elements, whether it has had a head and a body,
the number of start tags out of place whose end tags are still to come, and whether an
element was nested too deeply. -/
structure Draft where
  frames : Frames
  hadHead : Bool
  hadBody : Bool
  misplaced : Nat
  isOver : Bool
  deriving Repr

/-- More elements than this are not nested. -/
def depthLimit : Nat := 256

/-- The elements of the page itself. -/
def pageElements : List Text :=
  ["html", "head", "body"]

namespace Draft

/-- The draft of an empty page. -/
def empty : Draft :=
  ⟨.empty, false, false, 0, false⟩

/-- The draft with one more element open, unless that is one too many. -/
def push (draft : Draft) (name : Text) (attributes : Attributes) : Draft :=
  if draft.isOver || draft.frames.depth = depthLimit then
    { draft with isOver := true }
  else
    { draft with
      frames := ⟨name, attributes, []⟩ :: draft.frames
      hadHead := draft.hadHead || name = "head"
      hadBody := draft.hadBody || name = "body" }

/-- The draft with its innermost element closed. -/
def pop (draft : Draft) : Draft :=
  { draft with frames := draft.frames.pop }

/-- The draft with a part added to its innermost element. -/
def add (draft : Draft) (node : Node) : Draft :=
  { draft with frames := draft.frames.add node }

/-- The draft with the elements closed that a start tag closes. -/
def closeFor (draft : Draft) (start : Text) : Draft :=
  { draft with frames := closeForStart start draft.frames.length draft.frames }

/-- An element belongs into the head of a page. -/
def isHeadElement (name : Text) : Bool :=
  let names : List Text := ["script", "style", "meta", "link", "title", "base"]
  name ∈ names

/-- An element stands beside the body of a page. -/
def isFrameElement (name : Text) : Bool :=
  let names : List Text := ["noframes", "frame", "frameset"]
  name ∈ names

/-- The draft with the head or body open that an element needs, inside of the page. -/
def openPart (draft : Draft) (name : Text) : Draft :=
  if name = "head" || name = "body" then
    draft
  else if draft.frames.depth ≤ 1 && isHeadElement name then
    if draft.hadHead || draft.hadBody then
      draft
    else
      draft.push "head" []
  else if isFrameElement name || draft.hadBody || draft.frames.isOpen "head" then
    draft
  else
    draft.push "body" []

/-- The draft with everything open that an element needs. -/
def openNeeded (draft : Draft) (name : Text) : Draft :=
  if name = "html" then
    draft
  else if draft.frames.depth = 0 then
    (draft.push "html" []).openPart name
  else
    draft.openPart name

/-- The start tag of an element of the page itself is out of place. -/
def isMisplaced (draft : Draft) (name : Text) : Bool :=
  (name = "html" && draft.frames.depth != 0) || (name = "head" && draft.frames.depth != 1) ||
    (name = "body" && draft.frames.isOpen "body")

/-- The draft after a start tag. One out of place opens no element, but may close the
innermost one. -/
def openElement
    (draft : Draft)
    (name : Text)
    (attributes : Attributes)
    (selfClosing : Bool) : Draft :=
  let ready := (draft.closeFor name).openNeeded name
  let opened :=
    if ready.isMisplaced name then
      { ready with misplaced := ready.misplaced + 1 }
    else
      ready.push name attributes
  if opened.isOver || !(selfClosing || isVoid name) then
    opened
  else
    opened.pop

/-- The draft after an end tag. -/
def closeElement (draft : Draft) (name : Text) : Draft :=
  if draft.misplaced != 0 && name ∈ pageElements then
    { draft with misplaced := draft.misplaced - 1 }
  else
    match closedByEnd? name draft.frames with
    | some count => { draft with frames := draft.frames.popMany count }
    | none => draft

/-- The draft with a text, unless that is empty. Outside of all elements there is no
text. -/
def addText (draft : Draft) (content : Text) : Draft :=
  if content.isEmpty || draft.frames.depth = 0 then
    draft
  else
    draft.add (.text content)

/-- The draft with the part open that text needs. -/
def openForText (draft : Draft) : Draft :=
  if draft.frames.innermost = "head" then
    (draft.closeFor "p").openNeeded "p"
  else
    draft.openNeeded "p"

/-- The draft after a text. Blanks at its beginning may stand outside of the body; the
rest may not, if there has been no body yet. -/
def readText (draft : Draft) (content : Text) : Draft :=
  let outer : List Text := ["", "html", "head"]
  if draft.frames.innermost ∈ outer then
    let blanks := draft.addText (content.takeWhile isBlankInTag)
    match content.dropWhile isBlankInTag with
    | [] => blanks
    | rest =>
        let opened := blanks.openForText
        if opened.isOver then
          opened
        else
          opened.addText rest
  else
    draft.addText content

/-- The draft after a token. -/
def step (draft : Draft) (token : Token) : Draft :=
  if draft.isOver then
    draft
  else
    match token with
    | .text content => draft.readText content
    | .opening name attributes selfClosing => draft.openElement name attributes selfClosing
    | .closing name => draft.closeElement name
    | .comment content => draft.add (.comment content)

end Draft

/-- The parts of a document. -/
def readDocument (page : Text) : List Node :=
  ((tokens page).foldl Draft.step Draft.empty).frames.close

/-- The root of a document with the comments around it. What an end tag leaves behind the
root is lost. -/
def rootParts : List Node → List Node
  | [] => []
  | .comment content :: rest => .comment content :: rootParts rest
  | .text _ :: rest => rootParts rest
  | .element name attributes children :: rest =>
      .element name attributes children :: rest.takeWhile Node.isComment

/-- The parts of a page. -/
def read (page : Text) : List Node :=
  rootParts (readDocument page)

end EmailComposer.Html
