import EmailComposer.Markup.Segment

namespace EmailComposer.Markup

/-!
# The visible text of markup

Any text at all can be read as markup: tags, comments and declarations are then
skipped, however broken they are, and the characters between them are what a
reader sees. The rules are those of a forgiving markup reader. A bracket that
opens nothing is visible; so is a tag that the text ends in the middle of, unless
it ends at a place where an attribute is still expected.
-/

open EmailComposer.Text

/-- One step of the visible text: a character, or the seam that a comment leaves. -/
inductive Mark where
  | char (char : Char)
  | seam
  deriving Repr, DecidableEq

/-- A blank inside a tag. -/
def isTagBlank (char : Char) : Bool :=
  char ∈ ['\t', '\n', '\x0c', '\r', ' ']

/-- Where the reader of a tag stands. -/
inductive TagPlace where
  | name
  | beforeAttribute
  | attributeName
  | afterAttributeName
  | beforeValue
  | quotedValue (quote : Char)
  | afterQuotedValue
  | bareValue
  | slash
  | closed
  deriving Repr, DecidableEq

namespace TagPlace

/-- The next place where an attribute is expected. -/
def nextBeforeAttribute (char : Char) : TagPlace :=
  if isTagBlank char then
    .beforeAttribute
  else if char == '>' then
    .closed
  else if char == '/' then
    .slash
  else
    .attributeName

/-- The next place after one more character of the tag. -/
def next : TagPlace → Char → TagPlace
  | .name, char =>
      match nextBeforeAttribute char with
      | .attributeName => .name
      | place => place
  | .beforeAttribute, char => nextBeforeAttribute char
  | .attributeName, char =>
      if char == '=' then
        .beforeValue
      else
        match nextBeforeAttribute char with
        | .beforeAttribute => .afterAttributeName
        | place => place
  | .afterAttributeName, char =>
      if char == '=' then
        .beforeValue
      else
        match nextBeforeAttribute char with
        | .beforeAttribute => .afterAttributeName
        | place => place
  | .beforeValue, char =>
      if isTagBlank char then
        .beforeValue
      else if char == '>' then
        .closed
      else if char == '"' || char == '\x27' then
        .quotedValue char
      else
        .bareValue
  | .quotedValue quote, char =>
      if char == quote then
        .afterQuotedValue
      else
        .quotedValue quote
  | .afterQuotedValue, char => nextBeforeAttribute char
  | .bareValue, char =>
      if isTagBlank char then
        .beforeAttribute
      else if char == '>' then
        .closed
      else
        .bareValue
  | .slash, char => nextBeforeAttribute char
  | .closed, _ => .closed

/-- A tag that the text ends in here counts as text: it ends in its name, in or behind
the name of an attribute, or in a bare value. -/
def isTextAtEnd : TagPlace → Bool
  | .name => true
  | .attributeName => true
  | .afterAttributeName => true
  | .bareValue => true
  | _ => false

end TagPlace

/-- How a tag ends: at a bracket with a remaining text, or with the text. -/
inductive TagEnd where
  | closed (remaining : Text)
  | unfinished (isText : Bool)
  deriving Repr, DecidableEq

/-- Reads a tag to its end. -/
def readTag (place : TagPlace) : Text → TagEnd
  | [] => .unfinished place.isTextAtEnd
  | first :: rest =>
      let place := place.next first
      if place == .closed then
        .closed rest
      else
        readTag place rest

/-- Where the reader of a comment stands: how many hyphens of its end it has seen. -/
inductive CommentPlace where
  | start
  | startHyphen
  | inside
  | hyphen
  | ending
  | bang
  deriving Repr, DecidableEq

namespace CommentPlace

/-- The next place after one more character, or nothing where the comment ends. -/
def next? : CommentPlace → Char → Option CommentPlace
  | .start, char =>
      if char == '-' then
        some .startHyphen
      else if char == '>' then
        none
      else if char == '\x00' then
        some .start
      else
        some .inside
  | .startHyphen, char =>
      if char == '-' then
        some .ending
      else if char == '>' then
        none
      else if char == '\x00' then
        some .startHyphen
      else
        some .inside
  | .inside, char =>
      if char == '-' then
        some .hyphen
      else
        some .inside
  | .hyphen, char =>
      if char == '-' then
        some .ending
      else
        some .inside
  | .ending, char =>
      if char == '>' then
        none
      else if char == '!' then
        some .bang
      else if char == '-' then
        some .ending
      else
        some .inside
  | .bang, char =>
      if char == '>' then
        none
      else if char == '-' then
        some .hyphen
      else
        some .inside

end CommentPlace

/-- What remains behind a comment. -/
def afterComment (place : CommentPlace) : Text → Text
  | [] => []
  | first :: rest =>
      match place.next? first with
      | some next => afterComment next rest
      | none => rest

/-- What remains behind the next closing bracket. -/
def afterBracket (text : Text) : Text :=
  (text.dropWhile (· != '>')).drop 1

/-- The tags that divide a page into sections. -/
def sectionTags : List Text :=
  ["address", "article", "aside", "details", "dialog", "div", "fieldset", "footer",
    "form", "header", "hgroup", "main", "nav", "section", "h1", "h2", "h3", "h4", "h5",
    "h6"]

/-- The tags that hold a paragraph, a list, a table or the like. -/
def groupTags : List Text :=
  ["blockquote", "dd", "dl", "dt", "figcaption", "figure", "hr", "li", "ol", "p", "pre",
    "table", "ul"]

/-- The tags that put what follows them on a line of its own. -/
def blockTags : List Text :=
  sectionTags ++ groupTags

/-- A character of the name of a tag. -/
def isTagNameChar (char : Char) : Bool :=
  !isTagBlank char && char != '>' && char != '/'

/-- What an opening bracket turns out to begin, with the text behind it. -/
inductive Opened where
  | literal (shown remaining : Text)
  | tag (startsBlock : Bool) (remaining : Text)
  | comment (remaining : Text)
  | declaration (remaining : Text)
  deriving Repr, DecidableEq

namespace Opened

/-- The text behind what was opened. -/
def remaining : Opened → Text
  | .literal _ remaining => remaining
  | .tag _ remaining => remaining
  | .comment remaining => remaining
  | .declaration remaining => remaining

end Opened

/-- A tag whose name starts with a letter; `start` is what stood before the name. -/
def openTag (start : Text) (closing : Bool) (text : Text) : Opened :=
  match readTag .name text with
  | .closed remaining =>
      .tag (!closing && lower (text.takeWhile isTagNameChar) ∈ blockTags) remaining
  | .unfinished true => .literal (start ++ text) []
  | .unfinished false => .tag false []

/-- The text begins with the word that starts a declaration, in any letter case. -/
def isDeclaration (text : Text) : Bool :=
  (text.take 7).map lowerAscii = "doctype"

/-- What begins behind the bracket, the exclamation mark and this text. -/
def openExclamation (text : Text) : Opened :=
  match after? "--" text with
  | some rest => .comment (afterComment .start rest)
  | none =>
      if isDeclaration text then
        .declaration (afterBracket text)
      else
        .comment (afterBracket text)

/-- What begins behind the bracket, the slash and this text. Nothing but a letter
starts a closing tag; an empty one is skipped, anything else is visible. -/
def openSlash : Text → Opened
  | [] => .literal "</" []
  | '>' :: rest => .declaration rest
  | first :: rest =>
      if isAsciiLetter first then
        openTag "</" true (first :: rest)
      else
        let shown := (first :: rest).takeWhile (· != '>')
        match (first :: rest).dropWhile (· != '>') with
        | [] => .literal ("</" ++ shown) []
        | _ :: remaining => .literal ("</" ++ shown ++ ">") remaining

/-- What an opening bracket begins, by the text behind it. -/
def openBracket : Text → Opened
  | '!' :: rest => openExclamation rest
  | '/' :: rest => openSlash rest
  | '?' :: rest => .comment (afterBracket rest)
  | '>' :: rest => .literal "<>" rest
  | first :: rest =>
      if isAsciiLetter first then
        openTag "<" false (first :: rest)
      else
        .literal "<" (first :: rest)
  | [] => .literal "<" []

theorem length_of_readTag
    {place : TagPlace}
    {text remaining : Text}
    (ends : readTag place text = .closed remaining) :
    remaining.length ≤ text.length := by
  induction text generalizing place with
  | nil => simp [readTag] at ends
  | cons first rest inductionHypothesis =>
      unfold readTag at ends
      simp only at ends
      split at ends
      · simp only [TagEnd.closed.injEq] at ends
        simp [ends]
      · have short := inductionHypothesis ends
        simp only [List.length_cons]
        omega

theorem length_afterComment_le
    (place : CommentPlace)
    (text : Text) :
    (afterComment place text).length ≤ text.length := by
  induction text generalizing place with
  | nil => simp [afterComment]
  | cons first rest inductionHypothesis =>
      unfold afterComment
      split
      · rename_i next _
        have short := inductionHypothesis next
        simp only [List.length_cons]
        omega
      · simp

theorem length_afterBracket_le
    (text : Text) :
    (afterBracket text).length ≤ text.length := by
  have short := length_dropWhile_le (fun char => char != '>') text
  simp only [afterBracket, List.length_drop]
  omega

theorem length_openTag_le
    (start : Text)
    (closing : Bool)
    (text : Text) :
    (openTag start closing text).remaining.length ≤ text.length := by
  unfold openTag
  split
  · rename_i remaining ends
    exact length_of_readTag ends
  · simp [Opened.remaining]
  · simp [Opened.remaining]

theorem length_openExclamation_le
    (text : Text) :
    (openExclamation text).remaining.length ≤ text.length := by
  unfold openExclamation
  split
  · rename_i rest found
    have lengths := length_of_after? found
    have short := length_afterComment_le .start rest
    simp only [Opened.remaining]
    omega
  · split <;> exact length_afterBracket_le text

theorem length_openSlash_le
    (text : Text) :
    (openSlash text).remaining.length ≤ text.length := by
  unfold openSlash
  split
  · simp [Opened.remaining]
  · simp [Opened.remaining]
  · rename_i first rest _
    split
    · exact length_openTag_le _ _ _
    · have short := length_dropWhile_le (fun char => char != '>') (first :: rest)
      simp only
      split
      · simp [Opened.remaining]
      · rename_i head remaining isRest
        rw [isRest] at short
        simp only [List.length_cons, Opened.remaining] at short ⊢
        omega

theorem length_openBracket_le
    (text : Text) :
    (openBracket text).remaining.length ≤ text.length := by
  unfold openBracket
  split
  · rename_i rest
    have short := length_openExclamation_le rest
    simp only [List.length_cons]
    omega
  · rename_i rest
    have short := length_openSlash_le rest
    simp only [List.length_cons]
    omega
  · rename_i rest
    have short := length_afterBracket_le rest
    simp only [Opened.remaining, List.length_cons]
    omega
  · simp [Opened.remaining]
  · split
    · exact length_openTag_le _ _ _
    · simp [Opened.remaining]
  · simp [Opened.remaining]

theorem length_openBracket_lt
    (first : Char)
    (rest : Text) :
    (openBracket rest).remaining.length < (first :: rest).length :=
  Nat.lt_succ_of_le (length_openBracket_le rest)

/-- The marks of what an opened bracket turned out to be. A tag that starts a block
breaks the line, unless no tag stood before it. -/
def Opened.marks (seenTag : Bool) : Opened → List Mark
  | .literal shown _ => shown.map .char
  | .tag startsBlock _ => if startsBlock && seenTag then [.char '\n'] else []
  | .comment _ => [.seam]
  | .declaration _ => []

/-- An opened bracket turned out to be a tag. -/
def Opened.isTag : Opened → Bool
  | .tag _ _ => true
  | _ => false

/-- The visible marks of a text; null characters between tags are skipped. -/
def marksFrom (seenTag : Bool) : Text → List Mark
  | [] => []
  | first :: rest =>
      if first == '<' then
        let opened := openBracket rest
        opened.marks seenTag ++ marksFrom (seenTag || opened.isTag) opened.remaining
      else if first == '\x00' then
        marksFrom seenTag rest
      else
        .char first :: marksFrom seenTag rest
  termination_by text => text.length
  decreasing_by
    · exact length_openBracket_lt first rest
    · exact Nat.lt_succ_self rest.length
    · exact Nat.lt_succ_self rest.length

/-- The runs of visible characters between the seams. -/
def runs : List Mark → List Text
  | [] => [[]]
  | .seam :: rest => [] :: runs rest
  | .char char :: rest =>
      match runs rest with
      | [] => [[char]]
      | run :: others => (char :: run) :: others

/-- The runs of visible characters of a text. -/
def visibleRuns (text : Text) : List Text :=
  runs (marksFrom false (unifyLineBreaks text))

end EmailComposer.Markup
