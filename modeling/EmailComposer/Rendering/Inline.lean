import EmailComposer.Html.Printer
import EmailComposer.Html.Reader
import EmailComposer.Style.Sheet

namespace EmailComposer.Rendering

/-!
# Inlined styles

Some mail clients ignore style sheets. So the rules of the sheets of a page are written
into the style attributes of the elements, where the style that was there takes
precedence, and the sheets and all classes are removed. What a style says about size,
alignment and background is repeated in attributes of old. A page stays as it is if one
of its sheets lies elsewhere, a number in a style is beyond all bounds, or a style holds
a character that cannot be written into a page.
-/

open EmailComposer.Text
open EmailComposer.Html
open EmailComposer.Style (InlineRule Path Sheet Site)

/-! ## Attributes that repeat a style -/

/-- A color with two digits for each of three. -/
def longColor : Text → Text
  | ['#', a, b, c] =>
      if isHexDigit a && isHexDigit b && isHexDigit c then
        ['#', a, a, b, b, c, c]
      else
        ['#', a, b, c]
  | color => color

/-- A size without the unit of pixels. -/
def dropPixels (size : Text) : Text :=
  if endsWith "px" size then
    size.dropLast.dropLast
  else
    size

/-- A background that paints a color of its own. -/
def isPainted (background : Text) : Bool :=
  let small := background.map lowerAscii
  !includes "transparent" small && !includes "inherit" small

/-- The attribute that says the same as a declaration, if there is one. -/
def plainAttribute? (property value : Text) : Option (Text × Text) :=
  if property = "text-align" then
    some ("align", value)
  else if property = "vertical-align" then
    some ("valign", value)
  else if property = "background-color" && isPainted value then
    some ("bgcolor", longColor value)
  else if property = "width" || property = "height" then
    some (property, dropPixels value)
  else
    none

/-- The part of a style that is searched for declarations. A closing brace ends it, and
an opening one is taken to stand in front of it. -/
def searchedPart (style : Text) : Text :=
  if style.contains '\x7d' then
    (style.takeWhile (· != '\x7d')).drop 1
  else
    style

/-- The attributes that say the same as a style. A declaration with a colon or a semicolon
inside its value has none. -/
def plainAttributes (style : Text) : List (Text × Text) :=
  (fields ';' (searchedPart style)).filterMap fun declaration =>
    match fields ':' declaration with
    | [property, value] => plainAttribute? (strip property) (strip value)
    | _ => none

/-- A character can be written into a page. -/
def isWritable (char : Char) : Bool :=
  (0x20 ≤ char.toNat || char ∈ ['\t', '\n', '\r']) &&
    char.toNat ≠ 0xfffe && char.toNat ≠ 0xffff

/-- The attributes of an element under a style; none if the style cannot be written. An
empty style changes nothing. -/
def applyStyle? (attributes : Attributes) (style : Style) : Option Attributes :=
  let text := style.printCompact
  if text.isEmpty then
    some attributes
  else if text.all isWritable then
    some ((plainAttributes text).foldl (fun changed entry => changed.put entry.1 entry.2)
      (attributes.put "style" text))
  else
    none

/-- The side on which a style lets an element float. -/
def floatSide? (style : Style) : Option Text :=
  let sides : List Text := ["left", "right"]
  (style.find? fun declaration => declaration.property = ("float" : Text)).bind fun declaration =>
    sides.find? fun side =>
      declaration.value = side || declaration.value = side ++ " !" ++ Style.Entry.importantRank

/-- The attribute that aligns a floating image. -/
def floatAttribute (name : Text) (style : Style) (attributes : Attributes) : Attributes :=
  match floatSide? style with
  | some side =>
      if name = "img" then
        attributes.put "align" side
      else
        attributes
  | none => attributes

/-- A declaration says that its property has no value of its own. -/
def isUnset (declaration : Declaration) : Bool :=
  declaration.value.map lowerAscii = "unset"

/-! ## Sheets of a page -/

/-- A sheet counts for the screen, as far as its element says. -/
def isForScreen (attributes : Attributes) : Bool :=
  let media := (attributes.get? "media").getD []
  let screens : List Text := ["", "all", "screen"]
  media ∈ screens

/-- An element holds a sheet that counts. -/
def isSheetElement (name : Text) (attributes : Attributes) : Bool :=
  name = "style" && isForScreen attributes

/-- An element refers to a sheet that counts and lies elsewhere. -/
def isSheetLink (name : Text) (attributes : Attributes) : Bool :=
  name = "link" && ("stylesheet" : Text) ∈ Style.wordsOf ((attributes.get? "rel").getD []) &&
    isForScreen attributes

/-- The text at the beginning of an element. -/
def leadingText : List Node → Text
  | .text content :: rest => content ++ leadingText rest
  | _ => []

mutual

/-- The texts of the sheets in a part of a page; none if a sheet lies elsewhere. -/
def sheetTexts? : Node → Option (List Text)
  | .element name attributes children =>
      if isSheetLink name attributes then
        none
      else if isSheetElement name attributes then
        some [leadingText children]
      else
        sheetTextsAll? children
  | _ => some []

/-- The texts of the sheets in several parts of a page. -/
def sheetTextsAll? : List Node → Option (List Text)
  | [] => some []
  | first :: rest =>
      match sheetTexts? first, sheetTextsAll? rest with
      | some own, some others => some (own ++ others)
      | _, _ => none

end

/-- The rules of the sheets of a page, the strongest last. -/
def pageRules? (page : List Node) : Option (List InlineRule) :=
  (sheetTextsAll? page).bind fun texts =>
    (texts.zipIdx.mapM fun entry => Sheet.read? entry.2 entry.1).map fun sheets =>
      Style.ranked (sheets.flatMap Sheet.rules)

/-! ## Pages without sheets -/

/-- The style of an element under the rules that pick it. -/
def mergedStyle (picked : List InlineRule) (own : Style) : Style :=
  let sheet := picked.foldl (fun style rule => Style.merge style rule.style) ([] : Style)
  (Style.merge sheet own).filter fun declaration => !isUnset declaration

/-- The attributes of an element with the rules that pick it in its style. -/
def inlineAttributes? (rules : List InlineRule) (path : Path) (name : Text)
    (attributes : Attributes) : Option Attributes :=
  match rules.filter fun rule => rule.selector.picks path with
  | [] => some (attributes.erase "class")
  | picked =>
      (Style.read? ((attributes.get? "style").getD [])).bind fun own =>
        let style := mergedStyle picked own
        (applyStyle? attributes style).map fun changed =>
          (floatAttribute name style changed).erase "class"

/-- What is left over of the text of a sheet; none if that cannot be written. -/
def leftoverText? (text : Text) : Option Text :=
  (Sheet.read? 0 text).bind fun sheet =>
    let leftover := joinWith "\n" sheet.leftover
    if leftover.all isWritable then
      some leftover
    else
      none

mutual

/-- A part of a page with the rules in the styles of its elements. -/
def inlineNode?
    (rules : List InlineRule)
    (earlier : List (Text × Attributes))
    (around : Path) : Node → Option Node
  | .element name attributes children =>
      let path : Path := ⟨name, attributes, earlier⟩ :: around
      match inlineAttributes? rules path name attributes, inlineNodes? rules [] path false children
      with
      | some changed, some inner => some (.element name changed inner)
      | _, _ => none
  | part => some part

/-- Several parts of a page with the rules in the styles of their elements. Sheets are
left out with the text right behind them, unless something of a sheet is left over. -/
def inlineNodes?
    (rules : List InlineRule)
    (earlier : List (Text × Attributes))
    (around : Path)
    (behindSheet : Bool) : List Node → Option (List Node)
  | [] => some []
  | .text content :: rest =>
      (inlineNodes? rules earlier around behindSheet rest).map fun others =>
        if behindSheet then
          others
        else
          .text content :: others
  | .comment content :: rest =>
      (inlineNodes? rules earlier around false rest).map fun others =>
        .comment content :: others
  | .element name attributes children :: rest =>
      let later := (name, attributes) :: earlier
      if isSheetElement name attributes then
        match leftoverText? (leadingText children) with
        | some [] => inlineNodes? rules earlier around true rest
        | some leftover =>
            match inlineNode? rules earlier around (.element name attributes children),
              inlineNodes? rules later around false rest with
            | some (.element _ changed _), some others =>
                some (.element name changed [.text leftover] :: others)
            | _, _ => none
        | none => none
      else
        match inlineNode? rules earlier around (.element name attributes children),
          inlineNodes? rules later around false rest with
        | some part, some others => some (part :: others)
        | _, _ => none

end

/-- A page with the rules of its sheets in the styles of its elements. -/
def inlinePage (page : Text) : Text :=
  let parts := Html.read page
  match (pageRules? parts).bind fun rules => inlineNodes? rules [] [] false parts with
  | some inlined => "<!DOCTYPE html>\n" ++ printAll false inlined
  | none => page

end EmailComposer.Rendering
