import EmailComposer.Text.Case
import Mathlib.Data.List.Infix

namespace EmailComposer.Text

/-!
# Laws of letter case

Letter case outside ASCII does not get in the way of the words that the library
looks for: a text whose lower case is a word of small letters is that word up to the
letter case of ASCII. The Kelvin sign is the one exception, so words with a `k` are
left out.
-/

/-- A property of every ASCII character is checked character by character. -/
theorem forall_ascii
    {motive : Char → Prop}
    (holds : ∀ code < 128, motive (Char.ofNat code))
    {char : Char}
    (isAscii : char.toNat < 0x80) :
    motive char := by
  have atCode := holds char.toNat isAscii
  rwa [Char.ofNat_toNat] at atCode

theorem toNat_lt_of_isAsciiAlphanumeric
    {char : Char}
    (alphanumeric : isAsciiAlphanumeric char = true) :
    char.toNat < 0x80 := by
  simp only [isAsciiAlphanumeric, isAsciiLetter, isAsciiDigit, Bool.or_eq_true,
    Bool.and_eq_true, decide_eq_true_eq, Char.le_def, UInt32.le_iff_toNat_le] at alphanumeric
  simp only [Char.toNat]
  rcases alphanumeric with (⟨_, upper⟩ | ⟨_, upper⟩) | ⟨_, upper⟩ <;>
    exact Nat.lt_of_le_of_lt upper (by decide)

theorem isWord_of_isAsciiAlphanumeric
    {char : Char}
    (alphanumeric : isAsciiAlphanumeric char = true) :
    isWord char = true := by
  simp [isWord, toNat_lt_of_isAsciiAlphanumeric alphanumeric, alphanumeric]

/-- Numbers are written with digits of ASCII. -/
theorem isAsciiDigit_of_mem_ofNat
    {number : Nat}
    {char : Char}
    (member : char ∈ ofNat number) :
    isAsciiDigit char = true := by
  have isDigit := Nat.isDigit_of_mem_toDigits (by decide) (by decide) member
  simp only [Char.isDigit, Bool.and_eq_true, decide_eq_true_eq] at isDigit
  simp only [isAsciiDigit, Char.le_def, Bool.and_eq_true, decide_eq_true_eq]
  exact isDigit

/-- A character that only ASCII characters become in lower case. -/
def IsPlain (char : Char) : Prop :=
  char.toNat < 0x80 ∧ char ≠ 'k' ∧ char ≠ '\x00'

instance (char : Char) : Decidable (IsPlain char) :=
  inferInstanceAs (Decidable (_ ∧ _))

/-- A number is the code of its character, unless no character has that code. -/
theorem toNat_ofNat_or_null
    (code : Nat) :
    (Char.ofNat code).toNat = code ∨ Char.ofNat code = '\x00' := by
  by_cases isValid : code.isValidChar
  · have isCode : Char.ofNat code = Char.ofNatAux code isValid := dif_pos isValid
    exact .inl (by rw [isCode]; rfl)
  · have isNull : Char.ofNat code = '\x00' := dif_neg isValid
    exact .inr isNull

/-- Every run of capitals outside ASCII becomes letters outside ASCII, apart from the
Kelvin sign. -/
theorem caseRuns_outside_ascii :
    ∀ run ∈ caseRuns.toList,
      0x80 ≤ run.first + run.offset ∨
        (run.first = 0x212a ∧ run.last = 0x212a ∧ run.offset = -8383) := by
  decide +kernel

/-- Outside ASCII no character becomes a plain one. -/
theorem not_isPlain_lowerChar
    {char : Char}
    (outside : 0x80 ≤ char.toNat) :
    ¬ IsPlain (lowerChar char) := by
  unfold lowerChar
  rw [if_neg (by omega)]
  split
  · rename_i run isRun
    have member := Array.mem_toList_iff.mpr (Array.mem_of_find?_eq_some isRun)
    have inRun := Array.find?_some isRun
    simp only [Bool.and_eq_true, decide_eq_true_eq] at inRun
    rintro ⟨isAscii, notKelvin, notNull⟩
    rcases caseRuns_outside_ascii run member with above | ⟨first, last, offset⟩
    · rcases toNat_ofNat_or_null (char.toNat + run.offset).toNat with isCode | isNull
      · omega
      · exact notNull isNull
    · have isKelvin : char.toNat = 0x212a := by omega
      exact notKelvin (by rw [isKelvin, offset]; rfl)
  · rintro ⟨isAscii, _⟩
    omega

/-- Outside ASCII the letter case of ASCII changes nothing. -/
theorem lowerAscii_of_outside
    {char : Char}
    (outside : 0x80 ≤ char.toNat) :
    lowerAscii char = char := by
  unfold lowerAscii
  rw [if_neg]
  simp only [Bool.and_eq_true, decide_eq_true_eq, not_and]
  intro _ upper
  exact absurd (Nat.le_trans outside upper) (by decide)

/-- A character becomes a plain one by the letter case of ASCII or not at all. -/
theorem lowerChar_eq_iff
    {char small : Char}
    (plain : IsPlain small) :
    lowerChar char = small ↔ lowerAscii char = small := by
  by_cases isAscii : char.toNat < 0x80
  · simp [lowerChar, isAscii]
  · have outside : 0x80 ≤ char.toNat := Nat.le_of_not_lt isAscii
    constructor
    · rintro rfl
      exact absurd plain (not_isPlain_lowerChar outside)
    · rintro rfl
      rw [lowerAscii_of_outside outside] at plain
      exact absurd plain.1 isAscii

/-- The lower case of a letter that has one of its own, and that of the rest. -/
theorem lowerFrom_cons
    {first : Char}
    (notDotted : first ≠ 'İ')
    (notSigma : first ≠ 'Σ')
    (passed rest : Text) :
    lowerFrom passed (first :: rest) = lowerChar first :: lowerFrom (first :: passed) rest := by
  simp [lowerFrom, notDotted, notSigma]

/-- A capital sigma becomes no plain letter. -/
theorem lowerFrom_sigma
    (passed rest : Text) :
    ∃ small, ¬ IsPlain small ∧
      lowerFrom passed ('Σ' :: rest) = small :: lowerFrom ('Σ' :: passed) rest := by
  by_cases final : isFinalSigma passed rest = true
  · exact ⟨'ς', by decide, by simp [lowerFrom, final]⟩
  · exact ⟨'σ', by decide, by simp [lowerFrom, final]⟩

/-- A dotted capital I becomes an i and a combining dot. -/
theorem lowerFrom_dotted
    (passed rest : Text) :
    lowerFrom passed ('İ' :: rest) = 'i' :: '\u0307' :: lowerFrom ('İ' :: passed) rest := by
  simp [lowerFrom]

theorem lowerFrom_cons_ne_nil
    (passed : Text)
    (first : Char)
    (rest : Text) :
    lowerFrom passed (first :: rest) ≠ [] := by
  by_cases isDotted : first = 'İ'
  · rw [isDotted, lowerFrom_dotted]
    simp
  · by_cases isSigma : first = 'Σ'
    · obtain ⟨_, _, shape⟩ := lowerFrom_sigma passed rest
      rw [isSigma, shape]
      simp
    · rw [lowerFrom_cons isDotted isSigma]
      simp

/--
A plain first letter of a text in lower case comes from its first character by the
letter case of ASCII. A combining dot behind an i is excluded, because it would belong
to a dotted capital I.
-/
theorem lowerFrom_eq_cons_iff
    {small first : Char}
    {tail rest : Text}
    (plain : IsPlain small)
    (noDot : small = 'i' → tail.head? ≠ some '\u0307')
    (passed : Text) :
    lowerFrom passed (first :: rest) = small :: tail ↔
      lowerAscii first = small ∧ lowerFrom (first :: passed) rest = tail := by
  by_cases isDotted : first = 'İ'
  · subst isDotted
    -- It would leave its combining dot at the beginning of the tail.
    rw [lowerFrom_dotted]
    constructor
    · intro same
      obtain ⟨isSmall, rfl⟩ := List.cons.inj same
      exact absurd rfl (noDot isSmall.symm)
    · rintro ⟨rfl, _⟩
      exact absurd plain (by decide)
  · by_cases isSigma : first = 'Σ'
    · subst isSigma
      obtain ⟨lowered, notPlain, shape⟩ := lowerFrom_sigma passed rest
      rw [shape]
      constructor
      · intro same
        obtain ⟨rfl, _⟩ := List.cons.inj same
        exact absurd plain notPlain
      · rintro ⟨rfl, _⟩
        exact absurd plain (by decide)
    · rw [lowerFrom_cons isDotted isSigma, List.cons.injEq, lowerChar_eq_iff plain]

/-- A text in lower case begins with a plain word exactly if the text does by the
letter case of ASCII. -/
theorem lowerFrom_eq_append_iff
    {word ending text : Text}
    (plain : ∀ char ∈ word, IsPlain char)
    (noDot : word.getLast? = some 'i' → ending.head? ≠ some '\u0307')
    (passed : Text) :
    lowerFrom passed text = word ++ ending ↔
      ∃ start rest,
        text = start ++ rest ∧ start.map lowerAscii = word ∧
          lowerFrom (start.reverse ++ passed) rest = ending := by
  induction word generalizing text passed with
  | nil => simp
  | cons small others inductionHypothesis =>
      have othersPlain : ∀ char ∈ others, IsPlain char :=
        fun char member => plain char (by simp [member])
      have othersNoDot : others.getLast? = some 'i' → ending.head? ≠ some '\u0307' := by
        intro isLast
        apply noDot
        simp [List.getLast?_cons, isLast]
      have tailNoDot : small = 'i' → (others ++ ending).head? ≠ some '\u0307' := by
        rintro rfl
        cases others with
        | nil => exact noDot rfl
        | cons second _ =>
            intro isDot
            have secondPlain := othersPlain second (by simp)
            rw [List.cons_append, List.head?_cons, Option.some.injEq] at isDot
            exact absurd (isDot ▸ secondPlain) (by decide)
      constructor
      · intro same
        cases text with
        | nil => simp [lowerFrom] at same
        | cons first remaining =>
            obtain ⟨isFirst, onward⟩ :=
              (lowerFrom_eq_cons_iff (plain small (by simp)) tailNoDot passed).mp same
            obtain ⟨start, rest, rfl, isStart, behind⟩ :=
              (inductionHypothesis othersPlain othersNoDot _).mp onward
            exact ⟨first :: start, rest, rfl, by simp [isFirst, isStart], by simpa using behind⟩
      · rintro ⟨start, rest, rfl, lowered, behind⟩
        obtain ⟨first, tail, rfl, isFirst, isTail⟩ := List.map_eq_cons_iff.mp lowered
        refine (lowerFrom_eq_cons_iff (plain small (by simp)) tailNoDot passed).mpr
          ⟨isFirst, ?_⟩
        exact (inductionHypothesis othersPlain othersNoDot _).mpr
          ⟨tail, rest, rfl, isTail, by simpa using behind⟩

/-- A word that letter case can be seen through: plain letters, the last of them no i. -/
structure IsPlainWord (word : Text) : Prop where
  plain : ∀ char ∈ word, IsPlain char
  ending : word.getLast? ≠ some 'i'

instance (word : Text) : Decidable (IsPlainWord word) :=
  decidable_of_iff ((∀ char ∈ word, IsPlain char) ∧ word.getLast? ≠ some 'i')
    ⟨fun parts => ⟨parts.1, parts.2⟩, fun isWord => ⟨isWord.plain, isWord.ending⟩⟩

/-- A text is a plain word in lower case exactly if it is by the letter case of ASCII. -/
theorem lower_eq_iff
    {word text : Text}
    (isWord : IsPlainWord word) :
    lower text = word ↔ text.map lowerAscii = word := by
  have split : lowerFrom [] text = word ++ [] ↔ _ :=
    lowerFrom_eq_append_iff isWord.plain (fun isLast => absurd isLast isWord.ending) []
  rw [List.append_nil] at split
  rw [lower, split]
  constructor
  · rintro ⟨start, rest, rfl, isStart, behind⟩
    cases rest with
    | nil => simpa using isStart
    | cons first others => exact absurd behind (lowerFrom_cons_ne_nil _ _ _)
  · intro same
    exact ⟨text, [], by simp, same, rfl⟩

/-- A text begins with a plain word in lower case exactly if it does by the letter case of
ASCII. -/
theorem prefix_lower_iff
    {word text : Text}
    (isWord : IsPlainWord word) :
    word <+: lower text ↔ word <+: text.map lowerAscii := by
  constructor
  · rintro ⟨ending, same⟩
    obtain ⟨start, rest, rfl, isStart, _⟩ :=
      (lowerFrom_eq_append_iff isWord.plain (fun isLast => absurd isLast isWord.ending) []).mp
        same.symm
    exact ⟨rest.map lowerAscii, by simp [isStart]⟩
  · rintro ⟨ending, same⟩
    obtain ⟨start, rest, rfl, isStart, _⟩ := List.map_eq_append_iff.mp same.symm
    refine ⟨lowerFrom (start.reverse ++ []) rest, Eq.symm ?_⟩
    exact (lowerFrom_eq_append_iff isWord.plain (fun isLast => absurd isLast isWord.ending) []).mpr
      ⟨start, rest, rfl, isStart, rfl⟩

theorem lower_of_ascii
    {text : Text}
    (isAscii : ∀ char ∈ text, char.toNat < 0x80) :
    lower text = text.map lowerAscii := by
  have shape : ∀ passed, lowerFrom passed text = text.map lowerAscii := by
    induction text with
    | nil => exact fun _ => rfl
    | cons first rest inductionHypothesis =>
        intro passed
        have firstAscii := isAscii first (by simp)
        have notDotted : first ≠ 'İ' := by
          rintro rfl
          exact absurd firstAscii (by decide)
        have notSigma : first ≠ 'Σ' := by
          rintro rfl
          exact absurd firstAscii (by decide)
        rw [lowerFrom_cons notDotted notSigma,
          inductionHypothesis fun char member => isAscii char (by simp [member])]
        simp [lowerChar, firstAscii]
  exact shape []

/-- A letter in lower case is no capital of ASCII. -/
theorem lowerAscii_lowerChar
    (char : Char) :
    lowerAscii (lowerChar char) = lowerChar char := by
  by_cases isAscii : char.toNat < 0x80
  · rw [lowerChar, if_pos isAscii]
    exact forall_ascii (motive := fun char => lowerAscii (lowerAscii char) = lowerAscii char)
      (by decide +kernel) isAscii
  · have notPlain := not_isPlain_lowerChar (Nat.le_of_not_lt isAscii)
    by_cases outside : 0x80 ≤ (lowerChar char).toNat
    · exact lowerAscii_of_outside outside
    · by_cases isKelvin : lowerChar char = 'k'
      · rw [isKelvin]
        decide
      · by_cases isNull : lowerChar char = '\x00'
        · rw [isNull]
          decide
        · exact absurd ⟨Nat.lt_of_not_le outside, isKelvin, isNull⟩ notPlain

/-- Lower case has no capitals of ASCII. -/
theorem lowerAscii_of_mem_lower
    {char : Char}
    {text : Text}
    (member : char ∈ lower text) :
    lowerAscii char = char := by
  unfold lower at member
  generalize ([] : Text) = passed at member
  induction text generalizing passed with
  | nil => simp [lowerFrom] at member
  | cons first rest inductionHypothesis =>
      simp only [lowerFrom, List.mem_append] at member
      rcases member with isFirst | inRest
      · split at isFirst
        · simp only [List.mem_cons, List.not_mem_nil, or_false] at isFirst
          rcases isFirst with rfl | rfl <;> decide
        · split at isFirst
          · rw [List.mem_singleton] at isFirst
            split at isFirst <;> (subst isFirst; decide)
          · rw [List.mem_singleton.mp isFirst]
            exact lowerAscii_lowerChar first
      · exact inductionHypothesis _ inRest

/-- A plain word is read off a text that is in lower case already. -/
theorem lower_lower_eq_iff
    {word text : Text}
    (isWord : IsPlainWord word) :
    lower (lower text) = word ↔ lower text = word := by
  rw [lower_eq_iff isWord,
    List.map_congr_left fun _ member => lowerAscii_of_mem_lower member, List.map_id']

end EmailComposer.Text
