import EmailComposer.Proofs.Markup.Entity
import EmailComposer.Proofs.Text.Case
import EmailComposer.Proofs.Text.Run
import EmailComposer.Token.Mask

namespace EmailComposer.Token

/-!
# Placeholders of masked tokens

The stem of the placeholders does not occur in the text that is masked. A placeholder
is a mark, a word of letters and digits that begins with a zero, and what it stands for
begins with a brace and holds no bracket.
-/

open EmailComposer.Text
open EmailComposer.Markup

/-- A mark is the digit zero and letters and digits. -/
def IsMark (mark : Text) : Prop :=
  ∃ others, mark = '0' :: others ∧ ∀ char ∈ others, isAsciiAlphanumeric char = true

/-- Letters and digits need no entity. -/
theorem not_mem_unsafeChars_of_isAsciiAlphanumeric
    {char : Char}
    (alphanumeric : isAsciiAlphanumeric char = true) :
    char ∉ unsafeChars := by
  intro isUnsafe
  have noLetters : ∀ unsafeChar ∈ unsafeChars, isAsciiAlphanumeric unsafeChar = false := by
    decide
  rw [noLetters char isUnsafe] at alphanumeric
  cases alphanumeric

section Mark

variable {mark : Text} (isMark : IsMark mark)

include isMark

theorem IsMark.isAsciiAlphanumeric_of_mem :
    ∀ char ∈ mark, isAsciiAlphanumeric char = true := by
  obtain ⟨others, rfl, alphanumeric⟩ := isMark
  intro char member
  rcases List.mem_cons.mp member with rfl | inOthers
  · decide
  · exact alphanumeric char inOthers

theorem IsMark.not_mem
    {char : Char}
    (other : isAsciiAlphanumeric char = false) :
    char ∉ mark := by
  intro member
  rw [isMark.isAsciiAlphanumeric_of_mem char member] at other
  cases other

theorem IsMark.ne_nil :
    mark ≠ [] := by
  obtain ⟨others, rfl, _⟩ := isMark
  simp

/-- A mark needs no entity. -/
theorem IsMark.isSafe :
    ∀ char ∈ mark, char ∉ unsafeChars :=
  fun char member =>
    not_mem_unsafeChars_of_isAsciiAlphanumeric (isMark.isAsciiAlphanumeric_of_mem char member)

/-- A mark occurs in escaped content exactly if it does in the content. -/
theorem IsMark.infix_escape_iff
    {text : Text} :
    mark <:+: escape text ↔ mark <:+: text := by
  have isSafe := isMark.isSafe
  obtain ⟨others, rfl, _⟩ := isMark
  exact Markup.infix_escape_iff isSafe

/-- Behind a text without its first character a mark is found where it was. -/
theorem IsMark.infix_append_iff
    {start rest : Text}
    (noZero : '0' ∉ start) :
    mark <:+: start ++ rest ↔ mark <:+: rest := by
  obtain ⟨others, rfl, _⟩ := isMark
  exact ⟨infix_of_infix_append noZero,
    fun isInfix => isInfix.trans (List.suffix_append start rest).isInfix⟩

theorem IsMark.append
    {tail : Text}
    (alphanumeric : ∀ char ∈ tail, isAsciiAlphanumeric char = true) :
    IsMark (mark ++ tail) := by
  obtain ⟨others, rfl, othersAlphanumeric⟩ := isMark
  refine ⟨others ++ tail, rfl, fun char member => ?_⟩
  rcases List.mem_append.mp member with inOthers | inTail
  · exact othersAlphanumeric char inOthers
  · exact alphanumeric char inTail

end Mark

section Stem

/-- A stem is lengthened by the letter x only, and every shorter one is in the text. -/
theorem exists_freeStem_eq
    (text stem : Text)
    (fuel : Nat) :
    ∃ count,
      freeStem text stem fuel = stem ++ List.replicate count 'x' ∧
        ∀ fewer < count, stem ++ List.replicate fewer 'x' <:+: text := by
  induction fuel generalizing stem with
  | zero => exact ⟨0, by simp [freeStem], fun _ less => absurd less (Nat.not_lt_zero _)⟩
  | succ fuel inductionHypothesis =>
      by_cases taken : includes stem text = true
      · obtain ⟨count, shape, shorter⟩ := inductionHypothesis (stem ++ "x")
        have longer : ∀ count, (stem ++ "x") ++ List.replicate count 'x' =
            stem ++ List.replicate (count + 1) 'x' := by
          intro count
          rw [List.replicate_succ, List.append_assoc]
          rfl
        refine ⟨count + 1, by rw [freeStem, if_pos taken, shape, longer], fun fewer less => ?_⟩
        cases fewer with
        | zero => simpa using includes_iff.mp taken
        | succ fewer =>
            rw [← longer]
            exact shorter fewer (by omega)
      · exact ⟨0, by simp [freeStem, taken], fun _ less => absurd less (Nat.not_lt_zero _)⟩

/-- With fuel for stems longer than the text, a stem is found that is not in it. -/
theorem not_infix_freeStem
    {text stem : Text}
    {fuel : Nat}
    (enough : text.length < stem.length + fuel) :
    ¬ freeStem text stem fuel <:+: text := by
  induction fuel generalizing stem with
  | zero =>
      -- Out of fuel, the stem is longer than the text.
      intro isInfix
      have short := isInfix.length_le
      simp only [freeStem] at short
      omega
  | succ fuel inductionHypothesis =>
      by_cases taken : includes stem text = true
      · simp only [freeStem, taken, ↓reduceIte]
        apply inductionHypothesis
        simp only [List.length_append, String.length_toList]
        have letter : "x".length = 1 := rfl
        omega
      · simp only [freeStem, taken, Bool.false_eq_true, ↓reduceIte]
        exact fun isInfix => taken (includes_iff.mpr isInfix)

/-- The stem for a text does not occur in it. -/
theorem not_infix_stemFor
    (text : Text) :
    ¬ stemFor text <:+: text :=
  not_infix_freeStem (by omega)

theorem isMark_stemStart :
    IsMark stemStart :=
  ⟨"mbtoken", rfl, by decide⟩

theorem isMark_stemFor
    (text : Text) :
    IsMark (stemFor text) := by
  obtain ⟨count, shape, _⟩ := exists_freeStem_eq text stemStart (text.length + 1)
  rw [stemFor, shape]
  refine isMark_stemStart.append fun char member => ?_
  rw [List.eq_of_mem_replicate member]
  decide

end Stem

theorem isNoBracket_of_isAsciiAlphanumeric
    {char : Char}
    (alphanumeric : isAsciiAlphanumeric char = true) :
    isNoBracket char = true := by
  have isSafe := not_mem_unsafeChars_of_isAsciiAlphanumeric alphanumeric
  simp only [unsafeChars, List.mem_cons, List.not_mem_nil, or_false, not_or] at isSafe
  simp [isNoBracket, isSafe]

/-- A placeholder is its stem and letters and digits. -/
theorem exists_placeholder_eq
    (stem : Text)
    (formatting : Bool)
    (number : Nat) :
    ∃ others, placeholder stem formatting number = stem ++ others ∧
      (formatting = true → ∃ digits, others = 'f' :: digits) ∧
      ∀ char ∈ others, isAsciiAlphanumeric char = true := by
  have digitsAlphanumeric : ∀ char ∈ ofNat number, isAsciiAlphanumeric char = true := by
    intro char member
    rw [isAsciiAlphanumeric, isAsciiDigit_of_mem_ofNat member, Bool.or_true]
  cases formatting with
  | true =>
      refine ⟨'f' :: (ofNat number ++ ['z']), by simp [placeholder], fun _ => ⟨_, rfl⟩, ?_⟩
      intro char member
      rcases List.mem_cons.mp member with rfl | inDigits
      · decide
      · rcases List.mem_append.mp inDigits with isDigit | isEnd
        · exact digitsAlphanumeric char isDigit
        · rw [List.mem_singleton.mp isEnd]
          decide
  | false =>
      refine ⟨ofNat number ++ ['z'], by simp [placeholder], fun impossible => ?_, ?_⟩
      · cases impossible
      · intro char member
        rcases List.mem_append.mp member with isDigit | isEnd
        · exact digitsAlphanumeric char isDigit
        · rw [List.mem_singleton.mp isEnd]
          decide

theorem IsMark.placeholder
    {stem : Text}
    (isMark : IsMark stem)
    (formatting : Bool)
    (number : Nat) :
    IsMark (placeholder stem formatting number) := by
  obtain ⟨others, shape, _, alphanumeric⟩ := exists_placeholder_eq stem formatting number
  rw [shape]
  exact isMark.append alphanumeric

section Recognised

variable {keepsFormatting : Bool} {body : Text} {recognised : Recognised}

/-- The ways in which a token survives. -/
theorem recognise?_eq_some
    (found : recognise? keepsFormatting body = some recognised) :
    (strip body ∈ personalNames ∧ recognised = ⟨false, braced body⟩) ∨
      (keepsFormatting = true ∧ isCloser (strip body) = true ∧
        recognised = ⟨true, braced body⟩) ∨
      ∃ kind spec,
        keepsFormatting = true ∧ opener? body = some (kind, spec) ∧
          recognised = ⟨true, braced (kind.name ++ ":" ++ escapeWith specTable spec)⟩ := by
  unfold recognise? at found
  dsimp only at found
  split at found
  · rename_i isPersonal
    exact .inl ⟨isPersonal, (Option.some.inj found).symm⟩
  · split at found
    · rename_i keeps
      split at found
      · rename_i isCloser
        exact .inr (.inl ⟨keeps, isCloser, (Option.some.inj found).symm⟩)
      · obtain ⟨⟨kind, spec⟩, isOpener, same⟩ := Option.map_eq_some_iff.mp found
        exact .inr (.inr ⟨kind, spec, keeps, isOpener, same.symm⟩)
    · cases found

end Recognised

/-- Every placeholder stands for a token of the text that is recognised, and is numbered from
the count on. -/
theorem exists_of_mem_maskPieces
    {stem : Text}
    {keepsFormatting : Bool}
    {count : Nat}
    {pieces : List (Piece Text)}
    {entry : Placeholder}
    (member : entry ∈ (maskPieces stem keepsFormatting count pieces).2.1) :
    ∃ body recognised number,
      .found body ∈ pieces ∧ recognise? keepsFormatting body = some recognised ∧
        count ≤ number ∧
        entry = (placeholder stem recognised.formatting number, recognised.kept) := by
  induction pieces generalizing count with
  | nil => cases member
  | cons piece rest inductionHypothesis =>
      cases piece with
      | plain char =>
          obtain ⟨body, recognised, number, inRest, found⟩ := inductionHypothesis member
          exact ⟨body, recognised, number, by simp [inRest], found⟩
      | found body =>
          cases isRecognised : recognise? keepsFormatting body with
          | none =>
              simp only [maskPieces, isRecognised] at member
              obtain ⟨other, recognised, number, inRest, found⟩ := inductionHypothesis member
              exact ⟨other, recognised, number, by simp [inRest], found⟩
          | some recognised =>
              simp only [maskPieces, isRecognised, List.mem_cons] at member
              rcases member with isFirst | inRest
              · exact ⟨body, recognised, count, by simp, isRecognised, Nat.le_refl count, isFirst⟩
              · obtain ⟨other, laterRecognised, number, inPieces, found, isLater, isEntry⟩ :=
                  inductionHypothesis inRest
                exact ⟨other, laterRecognised, number, by simp [inPieces], found,
                  Nat.le_of_succ_le isLater, isEntry⟩

theorem braced_append
    (body rest : Text) :
    braced body ++ rest = '{' :: '{' :: (body ++ '}' :: '}' :: rest) := by
  simp [braced]

theorem mem_braced
    {body : Text}
    {char : Char} :
    char ∈ braced body ↔ char = '{' ∨ char ∈ body ∨ char = '}' := by
  simp [braced]

/-- The characters with a meaning in markup, in tokens or in placeholders. -/
def markupChars : List Char :=
  '0' :: ':' :: '{' :: '}' :: unsafeChars

/-- A body that names personal data. -/
def IsPersonal (body : Text) : Prop :=
  strip body ∈ personalNames

/-- A body that names personal data has letters and blanks only. -/
theorem IsPersonal.not_mem_markupChars
    {body : Text}
    (isPersonal : IsPersonal body)
    {char : Char}
    (member : char ∈ body) :
    char ∉ markupChars := by
  rcases isBlank_or_mem_strip member with isBlank | inName
  · intro isListed
    have noBlanks : ∀ listed ∈ markupChars, Text.isBlank listed = false := by
      decide
    rw [noBlanks char isListed] at isBlank
    cases isBlank
  · have names : ∀ name ∈ personalNames, ∀ letter ∈ name, letter ∉ markupChars := by
      decide
    exact names _ isPersonal char inName

theorem isMark_formattingMarker
    (text : Text)
    (keepsFormatting : Bool) :
    IsMark (mask text keepsFormatting).formattingMarker :=
  (isMark_stemFor text).append (by decide)

/-- A placeholder and its token can be told from the markup around them. Formatting
tokens have placeholders of their own, the others name personal data. -/
structure IsPlaceholder (marker : Text) (entry : Placeholder) : Prop where
  target : IsMark entry.1
  kept : ∃ body, entry.2 = braced body ∧ ∀ char ∈ body, isNoBracket char = true
  sort : marker <+: entry.1 ∨ ∃ body, entry.2 = braced body ∧ IsPersonal body

/-- A closing formatting token has the letters of its name and blanks only. -/
theorem not_mem_of_isCloser
    {body : Text}
    (closes : isCloser (strip body) = true)
    {char : Char}
    (noBlank : Text.isBlank char = false)
    (apart : ∀ kind ∈ Kind.all, char ∉ '/' :: kind.name) :
    char ∉ body := by
  intro member
  rcases isBlank_or_mem_strip member with isBlank | inName
  · rw [noBlank] at isBlank
    cases isBlank
  · obtain ⟨kind, isKind, isName⟩ := List.any_eq_true.mp closes
    rw [of_decide_eq_true isName] at inName
    exact apart kind isKind inName

/-- A closing formatting token holds no bracket. -/
theorem isNoBracket_of_isCloser
    {body : Text}
    (closes : isCloser (strip body) = true)
    {char : Char}
    (member : char ∈ body) :
    isNoBracket char = true := by
  by_contra isBracket
  simp only [isNoBracket, Bool.and_eq_true, bne_iff_ne, not_and_or, ne_eq, not_not] at isBracket
  rcases isBracket with rfl | rfl
  · exact not_mem_of_isCloser closes (by decide) (by decide) member
  · exact not_mem_of_isCloser closes (by decide) (by decide) member

/-- An opening formatting token with an escaped specification holds no bracket. -/
theorem isNoBracket_of_mem_opener
    {kind : Kind}
    {spec : Text}
    {char : Char}
    (member : char ∈ kind.name ++ ":" ++ escapeWith specTable spec) :
    isNoBracket char = true := by
  rcases List.mem_append.mp member with inName | inSpec
  · have names : ∀ letter ∈ kind.name ++ ":", isNoBracket letter = true := by
      cases kind <;> decide
    exact names char inName
  · have isSafe := mem_escapeWith_specTable inSpec
    simp only [List.mem_cons, List.not_mem_nil, or_false, not_or] at isSafe
    simp [isNoBracket, isSafe]

/-- The placeholders of a masked text are told apart by its marker. -/
theorem isPlaceholder_mask
    (text : Text)
    (keepsFormatting : Bool) :
    ∀ entry ∈ (mask text keepsFormatting).placeholders,
      IsPlaceholder (mask text keepsFormatting).formattingMarker entry := by
  intro entry member
  obtain ⟨body, recognised, number, _, isRecognised, _, rfl⟩ := exists_of_mem_maskPieces member
  obtain ⟨others, markShape, marked, _⟩ :=
    exists_placeholder_eq (stemFor text) recognised.formatting number
  refine ⟨?_, ?_, ?_⟩
  · exact (isMark_stemFor text).placeholder recognised.formatting number
  · rcases recognise?_eq_some isRecognised with
        ⟨isPersonal, rfl⟩ | ⟨_, closes, rfl⟩ | ⟨kind, spec, _, _, rfl⟩
    · refine ⟨body, rfl, fun char inBody => ?_⟩
      have isSafe := IsPersonal.not_mem_markupChars isPersonal inBody
      simp only [markupChars, unsafeChars, List.mem_cons, not_or] at isSafe
      simp [isNoBracket, isSafe]
    · exact ⟨body, rfl, fun _ inBody => isNoBracket_of_isCloser closes inBody⟩
    · exact ⟨_, rfl, fun _ inBody => isNoBracket_of_mem_opener inBody⟩
  · have formatting : recognised.formatting = true →
        (mask text keepsFormatting).formattingMarker <+:
          placeholder (stemFor text) recognised.formatting number := by
      intro isFormatting
      obtain ⟨digits, rfl⟩ := marked isFormatting
      exact ⟨digits, by simp [markShape, mask]⟩
    rcases recognise?_eq_some isRecognised with
        ⟨isPersonal, rfl⟩ | ⟨_, _, rfl⟩ | ⟨_, _, _, _, rfl⟩
    · exact .inr ⟨body, rfl, isPersonal⟩
    · exact .inl (formatting rfl)
    · exact .inl (formatting rfl)

/-- Every placeholder of a text begins with its stem. -/
theorem stem_prefix_of_mem_mask
    (text : Text)
    (keepsFormatting : Bool) :
    ∀ entry ∈ (mask text keepsFormatting).placeholders, stemFor text <+: entry.1 := by
  intro entry member
  obtain ⟨_, recognised, number, _, _, _, rfl⟩ := exists_of_mem_maskPieces member
  obtain ⟨others, shape, _⟩ := exists_placeholder_eq (stemFor text) recognised.formatting number
  exact ⟨others, shape.symm⟩

end EmailComposer.Token
