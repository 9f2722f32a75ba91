import EmailComposer.Style.Declaration
import EmailComposer.Style.Value

namespace EmailComposer.Style

/-!
# Declarations in normal form

Declarations are read from a style attribute and brought into one form. What is
malformed is left out. Of several declarations of one property the last important one
counts, or else the last one, and it stands where the property is mentioned last.
-/

open EmailComposer.Text

/-- A declaration as it is read: its property, its value in normal form and the mark of
its rank, which is empty for most. -/
structure Entry where
  property : Text
  value : Text
  rank : Text
  deriving Repr, DecidableEq

namespace Entry

/-- The rank that is written with a value. -/
def importantRank : Text :=
  "important"

/-- The declaration with its rank, if that is written. -/
def toDeclaration (entry : Entry) : Declaration :=
  if entry.rank = importantRank then
    ⟨entry.property, entry.value ++ " !" ++ importantRank⟩
  else
    ⟨entry.property, entry.value⟩

end Entry

/-- How many brackets are open behind a token. -/
def nesting (depth : Int) : Token → Int
  | .function _ => depth + 1
  | .mark char =>
      if char ∈ ['(', '[', '\x7b'] then
        depth + 1
      else if char ∈ [')', ']', '\x7d'] then
        depth - 1
      else
        depth
  | _ => depth

/-- The tokens up to the first of some marks outside of all brackets, and the mark with
what follows it. -/
def splitAtMark (marks : List Char) (depth : Int) : List Token → List Token × List Token
  | [] => ([], [])
  | token :: rest =>
      let isEnd : Bool :=
        match token with
        | .mark char => depth = 0 && char ∈ marks
        | _ => false
      if isEnd then
        ([], token :: rest)
      else
        let (inner, outer) := splitAtMark marks (nesting depth token) rest
        (token :: inner, outer)

/-- A token that means nothing. -/
def isIdle : Token → Bool
  | .blank => true
  | .comment _ => true
  | _ => false

/-- The rank behind the mark of an exclamation; no rank without one. -/
def readRank? (tokens : List Token) : Option Text :=
  match tokens.filter fun token => !isIdle token with
  | [] => some []
  | [.mark '!', .word name] => some (plainName name)
  | _ => none

/-- Reads a declaration that begins with a name, if it is well formed. -/
def readEntry? (name : Text) (rest : List Token) : Except ValueFault Entry :=
  let (between, behind) := splitAtMark [':'] 0 rest
  match behind with
  | _ :: following =>
      let (value, ranked) := splitAtMark ['!'] 0 following
      if between.all isIdle then
        match printValue? value, readRank? ranked with
        | .error fault, _ => .error fault
        | .ok _, none => .error .malformed
        | .ok text, some rank => .ok ⟨plainName name, text, rank⟩
      else
        .error .malformed
  | [] => .error .malformed

/-- Reads declarations, without those that are malformed; none if a number is beyond all
bounds. `fuel` bounds the number of steps, each of which uses a token. -/
def entriesFrom? : Nat → List Token → Option (List Entry)
  | 0, _ => some []
  | _, [] => some []
  | fuel + 1, .word name :: rest =>
      let (inner, outer) := splitAtMark [';'] 0 rest
      match readEntry? name inner, entriesFrom? fuel outer with
      | .ok entry, some entries => some (entry :: entries)
      | .error .malformed, some entries => some entries
      | _, _ => none
  | fuel + 1, token :: rest =>
      if isIdle token || token = .mark ';' then
        entriesFrom? fuel rest
      else
        entriesFrom? fuel (splitAtMark [';', '!'] (nesting 0 token) rest).2.tail

/-- The properties of declarations in the order in which each is mentioned last. -/
def properties : List Entry → List Text
  | [] => []
  | first :: rest =>
      if rest.any fun entry => entry.property = first.property then
        properties rest
      else
        first.property :: properties rest

/-- The declaration of a property that counts. -/
def effective? (entries : List Entry) (property : Text) : Option Entry :=
  let own := entries.filter fun entry => entry.property = property
  match (own.filter fun entry => !entry.rank.isEmpty).getLast? with
  | some entry => some entry
  | none => own.getLast?

/-- The declarations that count. -/
def effective (entries : List Entry) : List Entry :=
  (properties entries).filterMap (effective? entries)

/-- The declarations of a text; none if a number is beyond all bounds. -/
def readEntries? (text : Text) : Option (List Entry) :=
  let tokens := Style.tokens text
  (entriesFrom? (tokens.length + 1) tokens).map effective

/-- Reads the declarations of a style attribute; none if a number is beyond all bounds. -/
def read? (text : Text) : Option Style :=
  (readEntries? text).map fun entries => entries.map Entry.toDeclaration

/-- Declarations with one more: in the place of the one of its property, or at the end. -/
def put (style : Style) (declaration : Declaration) : Style :=
  match style with
  | [] => [declaration]
  | first :: rest =>
      if first.property = declaration.property then
        declaration :: rest
      else
        first :: put rest declaration

/-- Declarations with others that take precedence. -/
def merge (style others : Style) : Style :=
  others.foldl put style

/-- Declarations without spaces inside and with one between them. -/
def printCompact (style : Style) : Text :=
  joinWith "; " (style.map fun declaration =>
    declaration.property ++ ":" ++ declaration.value)

end EmailComposer.Style
