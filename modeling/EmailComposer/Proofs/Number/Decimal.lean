import EmailComposer.Number.Decimal
import EmailComposer.Proofs.Text.Case

namespace EmailComposer

/-!
# Characters of printed numbers

However a number is laid out, its text is made of letters and digits of ASCII, signs and
points.
-/

open EmailComposer.Text

/-- A character that numbers are written with. -/
def isNumeric (char : Char) : Bool :=
  isAsciiAlphanumeric char || char ∈ ['.', '-', '+']

/-- A text of such characters. -/
def IsNumeric (text : Text) : Prop :=
  ∀ char ∈ text, isNumeric char = true

instance (text : Text) : Decidable (IsNumeric text) :=
  inferInstanceAs (Decidable (∀ char ∈ text, isNumeric char = true))

namespace IsNumeric

theorem append
    {first second : Text}
    (numericFirst : IsNumeric first)
    (numericSecond : IsNumeric second) :
    IsNumeric (first ++ second) := by
  intro char member
  rcases List.mem_append.mp member with inFirst | inSecond
  · exact numericFirst char inFirst
  · exact numericSecond char inSecond

theorem ofNat
    (number : Nat) :
    IsNumeric (Text.ofNat number) := by
  intro char member
  simp [isNumeric, isAsciiAlphanumeric, isAsciiDigit_of_mem_ofNat member]

theorem ofInt
    (number : Int) :
    IsNumeric (Text.ofInt number) := by
  cases number with
  | ofNat value => exact ofNat value
  | negSucc value =>
      intro char member
      rcases List.mem_cons.mp member with rfl | inDigits
      · decide
      · exact ofNat (value + 1) char inDigits

theorem replicate_zero
    (count : Nat) :
    IsNumeric (List.replicate count '0') := by
  intro char member
  rw [List.eq_of_mem_replicate member]
  decide

end IsNumeric

namespace Binary64

theorem isNumeric_pointed
    {digits : Text}
    (numeric : IsNumeric digits)
    (whole : Nat) :
    IsNumeric (pointed digits whole) := by
  have taken : IsNumeric (digits.take whole) :=
    fun char member => numeric char (List.mem_of_mem_take member)
  have dropped : IsNumeric (digits.drop whole) :=
    fun char member => numeric char (List.mem_of_mem_drop member)
  unfold pointed
  split
  · exact numeric
  · exact (taken.append (by decide)).append dropped

theorem isNumeric_exponentText
    (exponent : Int) :
    IsNumeric (exponentText exponent) := by
  have sign : IsNumeric (if exponent < 0 then "-" else "+" : Text) := by
    split <;> decide
  have mark : IsNumeric ("e" : Text) := by decide
  exact ((mark.append sign).append (.replicate_zero _)).append (.ofNat _)

theorem isNumeric_print
    (layout : Layout)
    (value : Digits) :
    IsNumeric (layout.print value) := by
  have digits := IsNumeric.ofNat value.trim.digits
  have padded : ∀ count, IsNumeric (ofNat value.trim.digits ++ List.replicate count '0') :=
    fun count => digits.append (.replicate_zero count)
  have start : IsNumeric ("0." : Text) := by decide
  have ending : IsNumeric (".0" : Text) := by decide
  dsimp only [Layout.print]
  split
  · split
    · exact (start.append (.replicate_zero _)).append digits
    · split
      · exact (isNumeric_pointed (padded _) _).append ending
      · exact isNumeric_pointed (padded _) _
  · exact (isNumeric_pointed digits 1).append (isNumeric_exponentText _)

theorem isNumeric_printWith
    (layout : Layout)
    (digits : Nat → Int → Digits)
    (number : Binary64) :
    IsNumeric (printWith layout digits number) := by
  unfold printWith
  split
  · decide
  · split <;> decide
  · rename_i negative mantissa exponent _
    have sign : IsNumeric (if negative then "-" else [] : Text) := by
      split <;> decide
    dsimp only
    split
    · refine sign.append ?_
      split <;> decide
    · exact sign.append (isNumeric_print layout _)

theorem isNumeric_styleText
    (number : Binary64) :
    IsNumeric number.styleText :=
  isNumeric_printWith styleLayout _ number

end Binary64

end EmailComposer
