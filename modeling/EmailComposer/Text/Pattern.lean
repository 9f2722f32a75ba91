import EmailComposer.Text.Basic

namespace EmailComposer.Text

/-!
# Patterns and scans

A pattern recognises a value at the beginning of a text and uses up at least one
character. A scan walks through a text once, from left to right: where the
pattern is recognised it keeps the value and goes on behind it, elsewhere it
keeps the character. Splitting, replacing and collecting are read off the pieces.
-/

/-- A recogniser for the beginning of a text that never succeeds without using up
a character. -/
structure Pattern (Value : Type) where
  read? : Text → Option (Value × Text)
  uses :
    ∀ {text value rest},
      read? text = some (value, rest) →
      rest.length < text.length

/-- One step of a scan: a character that stays, or a recognised value. -/
inductive Piece (Value : Type) where
  | plain (char : Char)
  | found (value : Value)
  deriving Repr, DecidableEq

namespace Piece

/-- The recognised value of a piece. -/
def value? : Piece Value → Option Value
  | .plain _ => none
  | .found value => some value

/-- The text of a piece whose value is shown by `display`. -/
def render (display : Value → Text) : Piece Value → Text
  | .plain char => [char]
  | .found value => display value

end Piece

namespace Pattern

/-- The pieces of a text, recognised values leftmost first and without overlap. -/
def scan (pattern : Pattern Value) : Text → List (Piece Value)
  | [] => []
  | first :: rest =>
      match _found : pattern.read? (first :: rest) with
      | some (value, remaining) => .found value :: pattern.scan remaining
      | none => .plain first :: pattern.scan rest
  termination_by text => text.length
  decreasing_by
    · exact pattern.uses _found
    · simp

/-- The recognised values of a text, in order. -/
def findAll (pattern : Pattern Value) (text : Text) : List Value :=
  (pattern.scan text).filterMap Piece.value?

/-- The text with every recognised value shown by `display`. -/
def replace (pattern : Pattern Value) (display : Value → Text) (text : Text) : Text :=
  (pattern.scan text).flatMap (Piece.render display)

/-- Recognises one given text; an empty text is never recognised. -/
def literal (target : Text) : Pattern Unit where
  read? text :=
    if target.isEmpty then
      none
    else
      (after? target text).map fun rest => ((), rest)
  uses := by
    intro text value rest found
    split at found
    · simp at found
    · rename_i notEmpty
      obtain ⟨remaining, isAfter, same⟩ := Option.map_eq_some_iff.mp found
      have lengths := length_of_after? isAfter
      have positive : 0 < target.length := by
        cases target with
        | nil => simp at notEmpty
        | cons _ _ => simp
      cases same
      omega

theorem scan_nil
    (pattern : Pattern Value) :
    pattern.scan [] = [] := by
  simp [scan]

theorem scan_of_some
    {pattern : Pattern Value}
    {text rest : Text}
    {value : Value}
    (found : pattern.read? text = some (value, rest)) :
    pattern.scan text = .found value :: pattern.scan rest := by
  cases text with
  | nil => simpa using pattern.uses found
  | cons first others =>
      rw [scan]
      split
      · rename_i newValue newRest again
        rw [found] at again
        cases again
        rfl
      · rename_i missing
        rw [found] at missing
        cases missing

theorem scan_of_none
    {pattern : Pattern Value}
    {first : Char}
    {rest : Text}
    (missing : pattern.read? (first :: rest) = none) :
    pattern.scan (first :: rest) = .plain first :: pattern.scan rest := by
  rw [scan]
  split
  · rename_i value remaining found
    rw [missing] at found
    cases found
  · rfl

end Pattern

/-- The text with every occurrence of `target` replaced, leftmost first. -/
def replaceAll (target replacement text : Text) : Text :=
  (Pattern.literal target).replace (fun _ => replacement) text

end EmailComposer.Text
