import EmailComposer.Proofs.Text.Run
import EmailComposer.Proofs.Text.Scan

namespace EmailComposer.Text

/-!
# Counting tags

The places where a tag begins are counted. The count of two texts is the sum of their counts
if no tag reaches from one into the other, and none does where every opening bracket of the
first text is closed in it.
-/

/-- The number of places in a text that a part begins at. -/
def occurrences (part text : Text) : Nat :=
  text.tails.countP (startsWith part)

/-- Every opening bracket of a text is closed behind it, and what stands in between is the body
of a tag. -/
def ClosesBrackets (isBody : Text → Prop) : Text → Prop
  | [] => True
  | first :: rest =>
      (first = '<' → ∃ between behind, rest = between ++ '>' :: behind ∧ isBody between) ∧
        ClosesBrackets isBody rest

/-! ## Closed brackets -/

section Closed

variable {isBody : Text → Prop} {first second text : Text}

theorem closesBrackets_of_not_mem
    (missing : '<' ∉ text) :
    ClosesBrackets isBody text := by
  induction text with
  | nil => trivial
  | cons head rest inductionHypothesis =>
      rw [List.mem_cons, not_or] at missing
      exact ⟨fun isBracket => absurd isBracket.symm missing.1, inductionHypothesis missing.2⟩

theorem ClosesBrackets.append
    (closesFirst : ClosesBrackets isBody first)
    (closesSecond : ClosesBrackets isBody second) :
    ClosesBrackets isBody (first ++ second) := by
  induction first with
  | nil => exact closesSecond
  | cons head rest inductionHypothesis =>
      refine ⟨fun isBracket => ?_, inductionHypothesis closesFirst.2⟩
      obtain ⟨between, behind, shape, inTag⟩ := closesFirst.1 isBracket
      exact ⟨between, behind ++ second, by simp [shape], inTag⟩

theorem ClosesBrackets.of_append
    (closes : ClosesBrackets isBody (first ++ second)) :
    ClosesBrackets isBody second := by
  induction first with
  | nil => exact closes
  | cons head rest inductionHypothesis => exact inductionHypothesis closes.2

/-- No bracket is open in front of a character that no tag holds. -/
theorem ClosesBrackets.before
    {char : Char}
    (outside : ∀ between, isBody between → char ∉ between)
    (notBracket : char ≠ '>')
    (closes : ClosesBrackets isBody (first ++ char :: second)) :
    ClosesBrackets isBody first := by
  induction first with
  | nil => trivial
  | cons head rest inductionHypothesis =>
      refine ⟨fun isBracket => ?_, inductionHypothesis closes.2⟩
      obtain ⟨between, behind, shape, inTag⟩ := closes.1 isBracket
      replace shape : rest ++ char :: second = between ++ '>' :: behind := shape
      have apart : char ∉ between ++ ['>'] := by
        simpa [notBracket] using outside between inTag
      have isPrefix : between ++ ['>'] <+: rest ++ char :: second := ⟨behind, by simp [shape]⟩
      obtain ⟨others, same⟩ := prefix_of_prefix_append_cons apart isPrefix
      exact ⟨between, others, by simp [← same], inTag⟩

theorem ClosesBrackets.of_imp
    {isOther : Text → Prop}
    (implies : ∀ between, isOther between → isBody between)
    (closes : ClosesBrackets isOther text) :
    ClosesBrackets isBody text := by
  induction text with
  | nil => trivial
  | cons head rest inductionHypothesis =>
      refine ⟨fun isBracket => ?_, inductionHypothesis closes.2⟩
      obtain ⟨between, behind, shape, inTag⟩ := closes.1 isBracket
      exact ⟨between, behind, shape, implies between inTag⟩

/-- A tag closes the bracket that it begins with. -/
theorem closesBrackets_tag
    {between : Text}
    (single : '<' ∉ between)
    (inTag : isBody between) :
    ClosesBrackets isBody ('<' :: (between ++ ['>'])) :=
  ⟨fun _ => ⟨between, [], rfl, inTag⟩, closesBrackets_of_not_mem (by simp [single])⟩

end Closed

/-! ## Occurrences -/

theorem occurrences_cons
    (part : Text)
    (first : Char)
    (rest : Text) :
    occurrences part (first :: rest) =
      occurrences part rest + if startsWith part (first :: rest) then 1 else 0 := by
  simp [occurrences, List.countP_cons]

theorem occurrences_cons_elsewhere
    {part rest : Text}
    {first : Char}
    (elsewhere : ¬ part <+: first :: rest) :
    occurrences part (first :: rest) = occurrences part rest := by
  rw [← startsWith_iff] at elsewhere
  rw [occurrences_cons, if_neg elsewhere, Nat.add_zero]

section Tag

variable {name : Text}

@[simp] theorem occurrences_nil :
    occurrences ('<' :: name) [] = 0 := by
  simp [occurrences, startsWith]

/-- No tag begins where there is no bracket. -/
theorem occurrences_of_not_mem
    {text : Text}
    (missing : '<' ∉ text) :
    occurrences ('<' :: name) text = 0 := by
  induction text with
  | nil => exact occurrences_nil
  | cons first rest inductionHypothesis =>
      rw [List.mem_cons, not_or] at missing
      have elsewhere : ¬ '<' :: name <+: first :: rest :=
        fun begins => missing.1 (List.cons_prefix_cons.mp begins).1
      rw [occurrences_cons_elsewhere elsewhere, inductionHypothesis missing.2]

section Single

variable (single : '>' ∉ name.dropLast)

include single

/-- A text that ends at its first closing bracket does not reach over such a bracket. -/
theorem prefix_iff_of_bracket
    (between behind : Text) :
    name <+: between ++ '>' :: behind ↔ name <+: between ++ ['>'] := by
  constructor
  · intro isPrefix
    have inBetween : name.dropLast <+: between :=
      prefix_of_prefix_append_cons single (name.dropLast_prefix.trans isPrefix)
    have short : name.length ≤ (between ++ ['>']).length := by
      have lengths := inBetween.length_le
      simp only [List.length_dropLast, List.length_append, List.length_singleton] at lengths ⊢
      omega
    exact List.prefix_of_prefix_length_le isPrefix ⟨behind, by simp⟩ short
  · exact fun isPrefix => isPrefix.trans ⟨behind, by simp⟩

/-- Whether a tag begins at a bracket is settled where the bracket is closed. -/
theorem startsWith_eq_of_closed
    {first : Char}
    {rest other : Text}
    (agree :
      first = '<' →
        ∃ between behind others,
          rest = between ++ '>' :: behind ∧ other = between ++ '>' :: others) :
    startsWith ('<' :: name) (first :: rest) = startsWith ('<' :: name) (first :: other) := by
  rw [Bool.eq_iff_iff, startsWith_iff, startsWith_iff, List.cons_prefix_cons,
    List.cons_prefix_cons]
  refine and_congr_right fun isBracket => ?_
  obtain ⟨between, behind, others, rfl, rfl⟩ := agree isBracket.symm
  rw [prefix_iff_of_bracket single, prefix_iff_of_bracket single between others]

/-- Behind a text that closes its brackets the count goes on. -/
theorem occurrences_append
    {isBody : Text → Prop}
    {first : Text}
    (closes : ClosesBrackets isBody first)
    (second : Text) :
    occurrences ('<' :: name) (first ++ second) =
      occurrences ('<' :: name) first + occurrences ('<' :: name) second := by
  induction first with
  | nil => simp
  | cons head rest inductionHypothesis =>
      have same : startsWith ('<' :: name) (head :: (rest ++ second)) =
          startsWith ('<' :: name) (head :: rest) := by
        refine startsWith_eq_of_closed single fun isBracket => ?_
        obtain ⟨between, behind, rfl, _⟩ := closes.1 isBracket
        exact ⟨between, behind ++ second, behind, by simp, rfl⟩
      rw [List.cons_append, occurrences_cons, same, inductionHypothesis closes.2, occurrences_cons]
      omega

/-- A tag with no such body does not occur. -/
theorem occurrences_eq_zero
    {isBody : Text → Prop}
    (unlike : ∀ between, isBody between → ¬ name <+: between ++ ['>'])
    {text : Text}
    (closes : ClosesBrackets isBody text) :
    occurrences ('<' :: name) text = 0 := by
  induction text with
  | nil => exact occurrences_nil
  | cons first rest inductionHypothesis =>
      have elsewhere : ¬ '<' :: name <+: first :: rest := by
        rw [List.cons_prefix_cons]
        rintro ⟨isBracket, begins⟩
        obtain ⟨between, behind, rfl, inTag⟩ := closes.1 isBracket.symm
        exact unlike between inTag ((prefix_iff_of_bracket single between behind).mp begins)
      rw [occurrences_cons_elsewhere elsewhere, inductionHypothesis closes.2]

end Single

end Tag

end EmailComposer.Text
