import EmailComposer.Schema.Reader

namespace EmailComposer.Schema

/-!
# What readers accept

A value is read exactly if each of its parts is, so what a reader accepts is read off its
parts.
-/

open EmailComposer.Json

section Checked

variable {First Second : Type}

theorem under_eq_valid_iff
    {step : Step}
    {outcome : Checked First}
    {value : First} :
    outcome.under step = .valid value ↔ outcome = .valid value := by
  cases outcome <;> simp [Checked.under]

theorem map_eq_valid_iff
    {function : First → Second}
    {outcome : Checked First}
    {value : Second} :
    function <$> outcome = .valid value ↔
      ∃ argument, outcome = .valid argument ∧ function argument = value := by
  cases outcome with
  | valid argument => simp
  | invalid faults =>
      constructor
      · intro impossible
        cases impossible
      · rintro ⟨_, impossible, _⟩
        cases impossible

theorem seq_eq_valid_iff
    {function : Checked (First → Second)}
    {outcome : Checked First}
    {value : Second} :
    function <*> outcome = .valid value ↔
      ∃ apply argument,
        function = .valid apply ∧ outcome = .valid argument ∧ apply argument = value := by
  cases function <;> cases outcome <;> simp [Seq.seq, Checked.apply]

theorem fault_ne_valid
    {cause : Cause}
    {input : Value}
    {value : First} :
    Checked.fault cause input ≠ .valid value := by
  simp [Checked.fault]

end Checked

theorem text_eq_valid_iff
    {value : Value}
    {content : Text} :
    Schema.text value = .valid content ↔ value = .string content := by
  cases value <;> simp [Schema.text, Checked.fault]

/-- Texts by name are read, and nothing else is. -/
theorem exists_entries_iff
    {members : Members} :
    (∃ read, entries Schema.text Schema.text members = .valid read) ↔
      ∀ entry ∈ members, ∃ content, entry.2 = .string content := by
  induction members with
  | nil => simp [entries]
  | cons entry rest inductionHypothesis =>
      rw [List.forall_mem_cons, ← inductionHypothesis]
      simp only [entries, seq_eq_valid_iff, map_eq_valid_iff, under_eq_valid_iff,
        text_eq_valid_iff]
      constructor
      · rintro ⟨_, _, others, ⟨_, ⟨_, content, _, isText, _⟩, _⟩, areRead, _⟩
        exact ⟨⟨content, isText⟩, others, areRead⟩
      · rintro ⟨⟨content, isText⟩, others, areRead⟩
        exact ⟨_, _, others, ⟨_, ⟨_, content, ⟨_, rfl, rfl⟩, isText, rfl⟩, rfl⟩, areRead, rfl⟩

/-- A tagged record is read from an object only. -/
theorem exists_of_tagged_eq_valid
    {Model : Type}
    {discriminator : Text}
    {models : List (Text × (Record → Checked Model))}
    {input : Value}
    {value : Model}
    (isRead : tagged discriminator models input = .valid value) :
    ∃ members, input = .object members := by
  cases input with
  | object members => exact ⟨members, rfl⟩
  | _ => exact absurd isRead fault_ne_valid

end EmailComposer.Schema
