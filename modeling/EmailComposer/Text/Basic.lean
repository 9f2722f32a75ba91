namespace EmailComposer

/-!
# Text

Text is a list of Unicode characters. Everything the library reads, changes or
prints is text, so its functions are list functions and its laws are laws about
lists. This module holds the operations that do not depend on character classes.
-/

/-- Text is a list of Unicode characters. -/
abbrev Text := List Char

namespace Text

/-- A string literal stands for its characters. -/
instance : Coe String Text := ⟨String.toList⟩

/-- Texts are equal when they are compared as equal. -/
instance lawfulBEq : LawfulBEq Text :=
  inferInstance

/-- Whether a property holds of all characters of a text is checked on one after the
other. -/
instance decidableForallMem
    {property : Char → Prop}
    [DecidablePred property]
    (text : Text) : Decidable (∀ char ∈ text, property char) :=
  List.decidableBAll property text

/-- Whether a property holds of some character of a text is checked in the same way. -/
instance decidableExistsMem
    {property : Char → Prop}
    [DecidablePred property]
    (text : Text) : Decidable (∃ char ∈ text, property char) :=
  List.decidableBEx property text

/-- What follows `start` in a text that begins with it. -/
def after? : (start text : Text) → Option Text
  | [], text => some text
  | _ :: _, [] => none
  | first :: others, head :: tail => if first = head then after? others tail else none

/-- The text begins with `start`. -/
def startsWith (start text : Text) : Bool :=
  start.isPrefixOf text

/-- The text ends with `ending`. -/
def endsWith (ending text : Text) : Bool :=
  ending.isSuffixOf text

/-- The text has `part` as a run of consecutive characters. -/
def includes (part : Text) : Text → Bool
  | [] => part.isEmpty
  | first :: rest => startsWith part (first :: rest) || includes part rest

/-- The pieces of a text between the occurrences of `separator`. -/
def fields (separator : Char) : Text → List Text
  | [] => [[]]
  | first :: rest =>
      if first = separator then
        [] :: fields separator rest
      else
        match fields separator rest with
        | [] => [[first]]
        | field :: others => (first :: field) :: others

/-- A text up to the first `separator`, and what follows it, if there is one. -/
def cut (separator : Char) (text : Text) : Text × Option Text :=
  match text.dropWhile (· != separator) with
  | [] => (text, none)
  | _ :: rest => (text.takeWhile (· != separator), some rest)

/-- A text up to the last `separator`, if there is one, and what follows it. -/
def cutLast (separator : Char) (text : Text) : Option Text × Text :=
  match cut separator text.reverse with
  | (ending, none) => (none, ending.reverse)
  | (ending, some beginning) => (some beginning.reverse, ending.reverse)

/-- The texts one after another with `separator` between neighbours. -/
def joinWith (separator : Text) (texts : List Text) : Text :=
  separator.intercalate texts

/-- A text without the characters at its end that satisfy `drops`. -/
def dropEndWhile (drops : Char → Bool) (text : Text) : Text :=
  (text.reverse.dropWhile drops).reverse

/-- The decimal digits of a natural number. -/
def ofNat (value : Nat) : Text :=
  Nat.toDigits 10 value

/-- The decimal digits of an integer, behind a minus sign if it is negative. -/
def ofInt : Int → Text
  | .ofNat value => ofNat value
  | .negSucc value => '-' :: ofNat (value + 1)

/-- `width` lower-case hexadecimal digits of a natural number. -/
def hexadecimal (width value : Nat) : Text :=
  let digits := Nat.toDigits 16 value
  List.replicate (width - digits.length) '0' ++ digits

/-- The text with every line break written as a line feed. -/
def unifyLineBreaks : Text → Text
  | [] => []
  | '\r' :: '\n' :: rest => '\n' :: unifyLineBreaks rest
  | '\r' :: rest => '\n' :: unifyLineBreaks rest
  | first :: rest => first :: unifyLineBreaks rest

theorem after?_eq_some_iff
    {start text rest : Text} :
    after? start text = some rest ↔ text = start ++ rest := by
  induction start generalizing text with
  | nil => simp [after?, eq_comm]
  | cons first others inductionHypothesis =>
      cases text with
      | nil => simp [after?]
      | cons head tail =>
          by_cases same : first = head
          · subst same
            simpa [after?] using @inductionHypothesis tail
          · simp [after?, same, Ne.symm same]

theorem length_of_after?
    {start text rest : Text}
    (found : after? start text = some rest) :
    text.length = start.length + rest.length := by
  simp [after?_eq_some_iff.mp found]

end Text

end EmailComposer
