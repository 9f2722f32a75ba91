import EmailComposer.Markup.Entity
import EmailComposer.Markup.Visible

namespace EmailComposer.Markup

/-!
# Plain text

Fields without markup hold plain text: the visible text, with control characters
masked and the common entities decoded once. It must be escaped again before it
is put into markup.
-/

open EmailComposer.Text

/-- A control character that no text may show. -/
def isHiddenControl (char : Char) : Bool :=
  char.toNat < 9 || char.toNat == 11 || char.toNat == 12 ||
    (14 ≤ char.toNat && char.toNat < 32)

/-- A character of visible text, with a question mark for a control character. -/
def maskControl (char : Char) : Char :=
  if isHiddenControl char then
    '?'
  else
    char

/-- A run with its control characters masked; blanks at its ends stay. -/
def maskRun (run : Text) : Text :=
  let leading := run.takeWhile isTagBlank
  let rest := run.dropWhile isTagBlank
  let trailing := (rest.reverse.takeWhile isTagBlank).reverse
  leading ++ (dropEndWhile isTagBlank rest).map maskControl ++ trailing

/-- A character that ends the name of an entity. -/
def endsEntity (char : Char) : Bool :=
  char ∈ ['<', '&', '=', ';', ' ', '\t', '\n', '\r', '\x0b', '\x0c']

/-- What a numeric entity decodes to, by what stands between the number sign and
the semicolon. The first character that is no digit reads as a second semicolon;
it may only be the last one. -/
def numericEntity? (number : Text) : Option Text :=
  let (marker, isDigit) : Text × (Char → Bool) :=
    match number with
    | 'x' :: _ => (['x'], isHexDigit)
    | 'X' :: _ => (['X'], isHexDigit)
    | _ => ([], isAsciiDigit)
  let digits := (number.drop marker.length).takeWhile isDigit
  let name : Text := "#" ++ marker ++ digits
  let decoded := (commonEntity? name).getD ("&" ++ name ++ ";")
  match (number.drop marker.length).dropWhile isDigit with
  | [] => some decoded
  | [_] => some (decoded ++ ";")
  | _ => none

/-- What the entity at the beginning of a text decodes to, and what follows it. -/
def readEntity? : Text → Option (Text × Text)
  | '&' :: rest =>
      let name := rest.takeWhile (!endsEntity ·)
      match rest.dropWhile (!endsEntity ·) with
      | ';' :: remaining =>
          match name with
          | '#' :: number => (numericEntity? number).map fun decoded => (decoded, remaining)
          | _ => (commonEntity? name).map fun decoded => (decoded, remaining)
      | _ => none
  | _ => none

/-- Recognises one entity that decodes to something. -/
def entityPattern : Pattern Text where
  read? := readEntity?
  uses := by
    intro text value rest found
    unfold readEntity? at found
    split at found
    · rename_i following
      have short := length_dropWhile_le (!endsEntity ·) following
      simp only at found
      split at found
      · rename_i remaining isRest
        rw [isRest] at short
        simp only [List.length_cons] at short ⊢
        split at found
        all_goals
          obtain ⟨decoded, _, same⟩ := Option.map_eq_some_iff.mp found
          cases same
          omega
      · simp at found
    · simp at found

/-- The text with its entities decoded, once and from left to right. -/
def decodeEntities (text : Text) : Text :=
  entityPattern.replace id text

/-- The plain text of a markup. -/
def plainText (text : Text) : Text :=
  (visibleRuns text).flatMap fun run => decodeEntities (maskRun run)

/-- The plain text of a field without the blanks around it, escaped. -/
def plainField (text : Text) : Text :=
  escape (strip (plainText text))

end EmailComposer.Markup
