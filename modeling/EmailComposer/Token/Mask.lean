import EmailComposer.Markup.Sanitize

namespace EmailComposer.Token

/-!
# Masked tokens

Tokens in double braces would be torn apart by the escaping of the text around
them. Before a text is sanitized the recognised tokens are therefore swapped for
placeholders, and unknown ones are cut out; afterwards the placeholders are
swapped back. A placeholder begins with a digit, so that an angle bracket in
front of it starts no tag, and its stem does not occur in the text.
-/

open EmailComposer.Text
open EmailComposer.Markup

/-- The personal data that a token may stand for. -/
def personalNames : List Text :=
  ["firstName", "lastName", "email"]

/-- The kinds of formatting tokens. -/
inductive Kind where
  | bold
  | style
  | link
  deriving Repr, DecidableEq

namespace Kind

/-- All kinds, in the order in which they are looked for. -/
def all : List Kind :=
  [.bold, .style, .link]

/-- The name of a kind inside its tokens. -/
def name : Kind → Text
  | .bold => "bold"
  | .style => "style"
  | .link => "link"

end Kind

/-- What stands between the braces of a token at the beginning of a text, and what
follows the token. -/
def readBody? (text : Text) : Option (Text × Text) :=
  match after? "\x7b\x7b" text with
  | none => none
  | some inner =>
      match inner.takeWhile (· != '\x7d') with
      | [] => none
      | body => (after? "\x7d\x7d" (inner.dropWhile (· != '\x7d'))).map fun rest => (body, rest)

/-- Recognises one token by its double braces. -/
def bodyPattern : Pattern Text where
  read? := readBody?
  uses := by
    intro text body rest found
    unfold readBody? at found
    split at found
    · simp at found
    · rename_i inner isInner
      have innerLength := length_of_after? isInner
      split at found
      · simp at found
      · obtain ⟨remaining, isRest, same⟩ := Option.map_eq_some_iff.mp found
        have restLength := length_of_after? isRest
        have short := length_dropWhile_le (fun char => char != '\x7d') inner
        have two : ("\x7b\x7b" : Text).length = 2 := rfl
        cases same
        omega

/-- A body with its double braces. -/
def braced (body : Text) : Text :=
  "\x7b\x7b" ++ body ++ "\x7d\x7d"

/-- The kind and the specification of a formatting opener, if a body is one. -/
def opener? (body : Text) : Option (Kind × Text) :=
  Kind.all.findSome? fun kind =>
    match after? (kind.name ++ ":") body with
    | some (first :: rest) => some (kind, first :: rest)
    | _ => none

/-- The name closes a formatting token. -/
def isCloser (name : Text) : Bool :=
  Kind.all.any fun kind => name = '/' :: kind.name

/-- How a token survives: whether it is a formatting token, and its text. -/
structure Recognised where
  formatting : Bool
  kept : Text
  deriving Repr, DecidableEq

/-- Recognises the body of a token. Formatting tokens count only where they are
kept; the specification of an opener is escaped. -/
def recognise? (keepsFormatting : Bool) (body : Text) : Option Recognised :=
  let name := strip body
  if name ∈ personalNames then
    some ⟨false, braced body⟩
  else if keepsFormatting then
    if isCloser name then
      some ⟨true, braced body⟩
    else
      (opener? body).map fun opened =>
        ⟨true, braced (opened.1.name ++ ":" ++ escapeWith specTable opened.2)⟩
  else
    none

/-- A placeholder and the token that it stands for. -/
abbrev Placeholder := Text × Text

/-- A text with placeholders in it, what they stand for, what was cut out, and the
beginning that marks the placeholders of formatting tokens. -/
structure Masked where
  text : Text
  placeholders : List Placeholder
  dropped : List DroppedItem
  formattingMarker : Text
  deriving Repr, DecidableEq

/-- The beginning of the placeholder stem. -/
def stemStart : Text :=
  "0mbtoken"

/-- The first of the stems, each one letter longer than the one before, that does
not occur in the text; `fuel` bounds the number of letters. -/
def freeStem (text stem : Text) : Nat → Text
  | 0 => stem
  | fuel + 1 =>
      if includes stem text then
        freeStem text (stem ++ "x") fuel
      else
        stem

/-- A stem that does not occur in the text: a longer one than the text cannot. -/
def stemFor (text : Text) : Text :=
  freeStem text stemStart (text.length + 1)

/-- The placeholder with a number. -/
def placeholder (stem : Text) (formatting : Bool) (number : Nat) : Text :=
  let mark : Text := if formatting then "f" else []
  stem ++ mark ++ ofNat number ++ "z"

/-- Masks the pieces of a text, numbering the placeholders from `count` on. -/
def maskPieces (stem : Text) (keepsFormatting : Bool) :
    Nat → List (Piece Text) → Text × List Placeholder × List DroppedItem
  | _, [] => ([], [], [])
  | count, .plain char :: rest =>
      let (text, placeholders, dropped) := maskPieces stem keepsFormatting count rest
      (char :: text, placeholders, dropped)
  | count, .found body :: rest =>
      match recognise? keepsFormatting body with
      | some recognised =>
          let mark := placeholder stem recognised.formatting count
          let (text, placeholders, dropped) :=
            maskPieces stem keepsFormatting (count + 1) rest
          (mark ++ text, (mark, recognised.kept) :: placeholders, dropped)
      | none =>
          let (text, placeholders, dropped) := maskPieces stem keepsFormatting count rest
          (text, placeholders, ⟨.token, braced body⟩ :: dropped)

/-- Swaps the recognised tokens of a text for placeholders and cuts out the rest. -/
def mask (text : Text) (keepsFormatting : Bool) : Masked :=
  let stem := stemFor text
  let (masked, placeholders, dropped) :=
    maskPieces stem keepsFormatting 0 (bodyPattern.scan text)
  ⟨masked, placeholders, dropped, stem ++ "f"⟩

/-- Swaps the placeholders back, one after another. -/
def restore (text : Text) (placeholders : List Placeholder) : Text :=
  placeholders.foldl (fun current entry => replaceAll entry.1 entry.2 current) text

end EmailComposer.Token
