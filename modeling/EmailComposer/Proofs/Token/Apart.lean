import EmailComposer.Proofs.Token.Mask

namespace EmailComposer.Token

/-!
# Placeholders that cannot overlap

A placeholder begins with a zero and the letter m, and nowhere else in it does that
letter follow a zero. So it never overlaps with another placeholder, and an occurrence
that begins in the text in front of a placeholder ends there.
-/

open EmailComposer.Text

/-- The text holds no zero that the letter m follows, and does not end with a zero. -/
def Clear : Text → Prop
  | [] => True
  | first :: rest => (first = '0' → ∃ next ∈ rest.head?, next ≠ 'm') ∧ Clear rest

/-- The text begins with a zero and the letter m, and nothing in it does so again. -/
def IsApart (word : Text) : Prop :=
  ∃ others, word = '0' :: 'm' :: others ∧ Clear ('m' :: others)

section Clear

/-- A beginning without zeros keeps a clear text clear. -/
theorem Clear.append
    {start rest : Text}
    (noZero : '0' ∉ start)
    (clear : Clear rest) :
    Clear (start ++ rest) := by
  induction start with
  | nil => exact clear
  | cons first others inductionHypothesis =>
      rw [List.mem_cons, not_or] at noZero
      exact ⟨fun isZero => absurd isZero.symm noZero.1, inductionHypothesis noZero.2⟩

/-- A text without the letter m is clear with anything but a zero or that letter at its
end. -/
theorem clear_append_last
    {start : Text}
    {last : Char}
    (noLetter : 'm' ∉ start)
    (isLast : last ≠ '0' ∧ last ≠ 'm') :
    Clear (start ++ [last]) := by
  induction start with
  | nil => exact ⟨fun isZero => absurd isZero isLast.1, trivial⟩
  | cons first others inductionHypothesis =>
      rw [List.mem_cons, not_or] at noLetter
      refine ⟨fun _ => ?_, inductionHypothesis noLetter.2⟩
      cases others with
      | nil => exact ⟨last, rfl, isLast.2⟩
      | cons next more => exact ⟨next, rfl, fun isLetter => noLetter.2 (by simp [isLetter])⟩

/-- Nothing that begins like a placeholder begins in a clear text. -/
theorem Clear.infix_of_infix_append
    {start rest others : Text}
    (clear : Clear start)
    (isInfix : '0' :: 'm' :: others <:+: start ++ rest) :
    '0' :: 'm' :: others <:+: rest := by
  induction start with
  | nil => exact isInfix
  | cons first more inductionHypothesis =>
      rcases List.infix_cons_iff.mp isInfix with atStart | inRest
      · obtain ⟨isZero, onward⟩ := List.cons_prefix_cons.mp atStart
        obtain ⟨next, isNext, different⟩ := clear.1 isZero.symm
        cases more with
        | nil => cases isNext
        | cons second further =>
            obtain ⟨isLetter, _⟩ := List.cons_prefix_cons.mp onward
            cases isNext
            exact absurd isLetter.symm different
      · exact inductionHypothesis clear.2 inRest

variable {word before others : Text} (clear : Clear word)

include clear

/-- A clear text does not begin where a placeholder does. -/
theorem Clear.eq_nil_of_prefix
    (isPrefix : word <+: '0' :: 'm' :: others) :
    word = [] := by
  cases word with
  | nil => rfl
  | cons first rest =>
      obtain ⟨isZero, restPrefix⟩ := List.cons_prefix_cons.mp isPrefix
      obtain ⟨next, isNext, different⟩ := clear.1 isZero
      cases rest with
      | nil => cases isNext
      | cons second more =>
          obtain ⟨isLetter, _⟩ := List.cons_prefix_cons.mp restPrefix
          cases isNext
          exact absurd isLetter different

/-- A clear text that begins in front of a placeholder ends there. -/
theorem Clear.prefix_of_prefix_append
    (isPrefix : word <+: before ++ '0' :: 'm' :: others) :
    word <+: before := by
  induction before generalizing word with
  | nil => simp [clear.eq_nil_of_prefix isPrefix]
  | cons first rest inductionHypothesis =>
      cases word with
      | nil => exact List.nil_prefix
      | cons head tail =>
          obtain ⟨same, tailPrefix⟩ := List.cons_prefix_cons.mp isPrefix
          exact List.cons_prefix_cons.mpr ⟨same, inductionHypothesis clear.2 tailPrefix⟩

end Clear

section Apart

variable {word : Text} (isApart : IsApart word)

include isApart

theorem IsApart.ne_nil :
    word ≠ [] := by
  obtain ⟨others, rfl, _⟩ := isApart
  simp

/-- The first occurrence is the one behind a text that holds none. -/
theorem IsApart.replaceAll_append
    {replacement before : Text}
    (missing : ¬ word <:+: before)
    (rest : Text) :
    replaceAll word replacement (before ++ (word ++ rest)) =
      before ++ (replacement ++ replaceAll word replacement rest) := by
  induction before with
  | nil => exact replaceAll_append_target isApart.ne_nil rest
  | cons first others inductionHypothesis =>
      rw [List.infix_cons_iff, not_or] at missing
      have stillMissing : ¬ word <+: first :: (others ++ (word ++ rest)) := by
        intro isPrefix
        obtain ⟨letters, rfl, clear⟩ := isApart
        obtain ⟨same, onward⟩ := List.cons_prefix_cons.mp isPrefix
        exact missing.1 (List.cons_prefix_cons.mpr
          ⟨same, clear.prefix_of_prefix_append onward⟩)
      rw [List.cons_append, replaceAll_cons isApart.ne_nil stillMissing,
        inductionHypothesis missing.2, List.cons_append]

end Apart

section Placeholder

/-- A stem is the letters behind a zero that every stem begins with, and more of the
letter x. -/
theorem exists_stemFor_eq
    (text : Text) :
    ∃ letters, stemFor text = '0' :: 'm' :: letters ∧ '0' ∉ letters := by
  obtain ⟨count, shape, _⟩ := exists_freeStem_eq text stemStart (text.length + 1)
  refine ⟨"btoken" ++ List.replicate count 'x', by rw [stemFor, shape]; rfl, ?_⟩
  intro member
  rcases List.mem_append.mp member with inLetters | isMore
  · exact absurd inLetters (by decide)
  · exact absurd (List.eq_of_mem_replicate isMore) (by decide)

theorem not_mem_ofNat
    {char : Char}
    (noDigit : isAsciiDigit char = false)
    (number : Nat) :
    char ∉ ofNat number := by
  intro member
  rw [isAsciiDigit_of_mem_ofNat member] at noDigit
  cases noDigit

/-- Numbers are told apart by their digits. -/
theorem ofNat_injective
    {first second : Nat}
    (same : ofNat first = ofNat second) :
    first = second := by
  have value := congrArg (fun digits => Nat.ofDigitChars 10 digits 0) same
  simpa [ofNat] using value

/-- Between the stem of a placeholder and its number stands one letter at most. -/
theorem exists_mark_placeholder
    (stem : Text)
    (formatting : Bool)
    (number : Nat) :
    ∃ mark : Text,
      placeholder stem formatting number = stem ++ (mark ++ (ofNat number ++ ['z'])) ∧
        ∀ char ∈ mark, char = 'f' := by
  cases formatting with
  | true => exact ⟨['f'], by simp [placeholder], by simp⟩
  | false => exact ⟨[], by simp [placeholder], by simp⟩

theorem isApart_placeholder
    (text : Text)
    (formatting : Bool)
    (number : Nat) :
    IsApart (placeholder (stemFor text) formatting number) := by
  obtain ⟨letters, stemShape, noZero⟩ := exists_stemFor_eq text
  obtain ⟨mark, shape, isMark⟩ := exists_mark_placeholder (stemFor text) formatting number
  have ending : Clear (ofNat number ++ ['z']) :=
    clear_append_last (not_mem_ofNat (by decide) number) (by decide)
  have noZeroAtAll : '0' ∉ 'm' :: (letters ++ mark) := by
    intro member
    simp only [List.mem_cons, List.mem_append, noZero, false_or] at member
    rcases member with isLetter | inMark
    · exact absurd isLetter (by decide)
    · exact absurd (isMark '0' inMark) (by decide)
  refine ⟨letters ++ mark ++ (ofNat number ++ ['z']), ?_, Clear.append noZeroAtAll ending⟩
  rw [shape, stemShape]
  simp

/-- A text that begins with a placeholder tells its number. -/
theorem digits_of_mark
    {mark : Text}
    (isMark : ∀ char ∈ mark, char = 'f')
    (number : Nat)
    (rest : Text) :
    ((mark ++ (ofNat number ++ 'z' :: rest)).dropWhile (!isAsciiDigit ·)).takeWhile
        isAsciiDigit =
      ofNat number := by
  have noDigits : ∀ char ∈ mark, (!isAsciiDigit char) = true := by
    intro char member
    rw [isMark char member]
    decide
  have startsHere : Stops (!isAsciiDigit ·) (ofNat number ++ 'z' :: rest) := by
    intro char isHead
    cases digits : ofNat number with
    | nil => exact absurd digits Nat.toDigits_ne_nil
    | cons first others =>
        rw [digits] at isHead
        cases isHead
        have inNumber : char ∈ ofNat number := by simp [digits]
        simp [isAsciiDigit_of_mem_ofNat inNumber]
  rw [dropWhile_run_append noDigits startsHere]
  exact takeWhile_run_append (fun _ => isAsciiDigit_of_mem_ofNat) (stops_cons.mpr (by decide))

/-- A placeholder stands at the beginning of a text that begins with a placeholder only if
the two have the same number. -/
theorem number_eq_of_placeholder_start
    {stem rest : Text}
    {formatting otherFormatting : Bool}
    {number otherNumber : Nat}
    (isPrefix :
      placeholder stem formatting number <+:
        placeholder stem otherFormatting otherNumber ++ rest) :
    number = otherNumber := by
  obtain ⟨mark, shape, isMark⟩ := exists_mark_placeholder stem formatting number
  obtain ⟨otherMark, otherShape, isOtherMark⟩ :=
    exists_mark_placeholder stem otherFormatting otherNumber
  obtain ⟨behind, same⟩ := isPrefix
  rw [shape, otherShape] at same
  simp only [List.append_assoc, List.append_cancel_left_eq, List.singleton_append] at same
  apply ofNat_injective
  rw [← digits_of_mark isMark number behind, same, digits_of_mark isOtherMark]

end Placeholder

end EmailComposer.Token
