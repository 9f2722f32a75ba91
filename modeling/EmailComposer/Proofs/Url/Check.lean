import EmailComposer.Proofs.Text.Case
import EmailComposer.Proofs.Text.Run
import EmailComposer.Proofs.Text.Scan
import EmailComposer.Url.Check

namespace EmailComposer.Url

/-!
# Allowed protocols

The protocol check looks at the beginning of a text only: blanks, then an allowed
protocol in any letter case of ASCII.
-/

open EmailComposer.Text

theorem isBlank_lowerAscii
    (char : Char) :
    isBlank (lowerAscii char) = isBlank char := by
  by_cases isAscii : char.toNat < 0x80
  · exact forall_ascii (motive := fun char => isBlank (lowerAscii char) = isBlank char)
      (by decide +kernel) isAscii
  · rw [lowerAscii_of_outside (Nat.le_of_not_lt isAscii)]

/-- The allowed protocols can be seen through letter case and have no blanks. -/
theorem allowedProtocols_sound :
    ∀ protocol ∈ allowedProtocols,
      IsPlainWord protocol ∧ (∀ char ∈ protocol, isBlank char = false) ∧ '0' ∉ protocol ∧
        protocol ≠ [] := by
  decide

/-- An allowed protocol, as it is spelled. -/
def IsProtocol (text : Text) : Prop :=
  text.map lowerAscii ∈ allowedProtocols

namespace IsProtocol

variable {start : Text}

theorem not_isBlank
    (isProtocol : IsProtocol start)
    {char : Char}
    (member : char ∈ start) :
    isBlank char = false := by
  have inProtocol := List.mem_map_of_mem (f := lowerAscii) member
  rw [← isBlank_lowerAscii]
  exact (allowedProtocols_sound _ isProtocol).2.1 _ inProtocol

theorem zero_not_mem
    (isProtocol : IsProtocol start) :
    '0' ∉ start := by
  intro member
  have inProtocol := List.mem_map_of_mem (f := lowerAscii) member
  exact (allowedProtocols_sound _ isProtocol).2.2.1 inProtocol

theorem exists_concat
    (isProtocol : IsProtocol start) :
    ∃ before last, start = before ++ [last] := by
  rcases List.eq_nil_or_concat start with rfl | ⟨before, last, shape⟩
  · exact absurd rfl (allowedProtocols_sound _ isProtocol).2.2.2
  · exact ⟨before, last, by rw [shape, List.concat_eq_append]⟩

/-- Stripping a text keeps a protocol at its beginning. -/
theorem exists_strip_eq
    (isProtocol : IsProtocol start)
    {blanks : Text}
    (areBlank : ∀ char ∈ blanks, isBlank char = true)
    (rest : Text) :
    ∃ ending, strip (blanks ++ (start ++ rest)) = start ++ ending := by
  obtain ⟨before, last, rfl⟩ := isProtocol.exists_concat
  have stops : Stops isBlank (before ++ [last] ++ rest) := by
    intro char isHead
    cases before with
    | nil => exact isProtocol.not_isBlank (by simpa [eq_comm] using isHead)
    | cons first others => exact isProtocol.not_isBlank (by simp_all)
  have stays : isBlank last = false := isProtocol.not_isBlank (by simp)
  obtain ⟨ending, kept⟩ := exists_dropEndWhile_append stays before rest
  refine ⟨ending, ?_⟩
  rw [strip, dropWhile_run_append areBlank stops]
  simpa using kept

end IsProtocol

/-- The check accepts blanks, an allowed protocol and any rest, and nothing else. -/
theorem hasAllowedProtocol_iff
    {text : Text} :
    hasAllowedProtocol text = true ↔
      ∃ blanks start rest,
        text = blanks ++ (start ++ rest) ∧ (∀ char ∈ blanks, isBlank char = true) ∧
          IsProtocol start := by
  have atStart : hasAllowedProtocol text = true ↔
      ∃ protocol ∈ allowedProtocols, protocol <+: (strip text).map lowerAscii := by
    simp only [hasAllowedProtocol, List.any_eq_true, startsWith_iff]
    constructor
    · rintro ⟨protocol, isAllowed, isPrefix⟩
      exact ⟨protocol, isAllowed,
        (prefix_lower_iff (allowedProtocols_sound protocol isAllowed).1).mp isPrefix⟩
    · rintro ⟨protocol, isAllowed, isPrefix⟩
      exact ⟨protocol, isAllowed,
        (prefix_lower_iff (allowedProtocols_sound protocol isAllowed).1).mpr isPrefix⟩
  rw [atStart]
  constructor
  · rintro ⟨protocol, isAllowed, ending, same⟩
    obtain ⟨blanks, trailing, shape, areBlank, _⟩ := exists_append_strip text
    obtain ⟨start, rest, stripped, isStart, _⟩ := List.map_eq_append_iff.mp same.symm
    refine ⟨blanks, start, rest ++ trailing, ?_, areBlank, ?_⟩
    · rw [← List.append_assoc start, ← stripped]
      exact shape
    · rw [IsProtocol, isStart]
      exact isAllowed
  · rintro ⟨blanks, start, rest, rfl, areBlank, isProtocol⟩
    obtain ⟨ending, stripped⟩ := isProtocol.exists_strip_eq areBlank rest
    exact ⟨_, isProtocol, ending.map lowerAscii, by rw [stripped, List.map_append]⟩

/-- Replacing a word that begins with the digit zero keeps the protocol. -/
theorem hasAllowedProtocol_replaceAll
    {others replacement text : Text}
    (allowed : hasAllowedProtocol text = true) :
    hasAllowedProtocol (replaceAll ('0' :: others) replacement text) = true := by
  obtain ⟨blanks, start, rest, rfl, areBlank, isProtocol⟩ := hasAllowedProtocol_iff.mp allowed
  have blanksNoZero : '0' ∉ blanks := by
    intro member
    exact absurd (areBlank '0' member) (by decide)
  rw [replaceAll_append blanksNoZero, replaceAll_append isProtocol.zero_not_mem]
  exact hasAllowedProtocol_iff.mpr ⟨blanks, start, _, rfl, areBlank, isProtocol⟩

end EmailComposer.Url
