import EmailComposer.Proofs.Content.WovenPlain
import EmailComposer.Proofs.Token.Stretch

namespace EmailComposer

/-!
# Tokens left in sanitized text

Unknown tokens are cut out of a text once, before anything else is. What is joined later is
not looked at again, so a token that nobody put back may come up between the tokens that
were. Each of them lies within one stretch of the result, and opens with a brace that was
typed outside of all tokens.
-/

open EmailComposer.Text
open EmailComposer.Markup
open EmailComposer.Token

/-- An opening brace of what sanitizing leaves was typed outside of all tokens. -/
theorem mem_typed_of_isCut
    {text : Text}
    {keepsFormatting : Bool}
    {weave : Weave}
    (isCut : weave.IsCut IsMade (Weave.ofText text keepsFormatting))
    (member : '{' ∈ weave.spelling) :
    '{' ∈ (Weave.ofText text keepsFormatting).typed := by
  obtain ⟨strand, isStrand, inStrand⟩ := List.mem_flatMap.mp member
  cases strand with
  | typed char =>
      obtain rfl := List.mem_singleton.mp inStrand
      exact isCut.typed.subset (List.mem_filterMap.mpr ⟨_, isStrand, rfl⟩)
  | mark entry =>
      have isMark := isMark_of_mem_mask (isCut.isMasked.marks entry isStrand)
      exact absurd inStrand (isMark.not_mem (by decide))
  | made made => exact absurd inStrand (isCut.made made isStrand).braceless

/--
Sanitized text is its masked text with every placeholder that can be read in it replaced by
its token. All its tokens are known exactly if those in each stretch between two replaced
placeholders are. They are if the sanitized masked text holds no opening brace; one that it
holds was typed outside of all tokens.
-/
theorem BlockType.tokens_known_iff
    (type : BlockType)
    (text : Text) :
    ∃ reading : Weave,
      reading.spelling =
          (type.policy.sanitizeMasked (mask text type.policy.keepsFormatting)).html ∧
        (∀ entry ∈ (mask text type.policy.keepsFormatting).placeholders,
          reading.StandsAtMark entry) ∧
        type.sanitizeText text = reading.restored ∧
        ((∀ body ∈ bodyPattern.findAll (type.sanitizeText text),
            IsKnown type.policy.keepsFormatting body) ↔
          ∀ stretch ∈ reading.stretches, ∀ body ∈ bodyPattern.findAll stretch,
            IsKnown type.policy.keepsFormatting body) ∧
        ('{' ∉ reading.spelling →
          ∀ body ∈ bodyPattern.findAll (type.sanitizeText text),
            IsKnown type.policy.keepsFormatting body) ∧
        ('{' ∈ reading.spelling →
          '{' ∈ (Weave.ofText text type.policy.keepsFormatting).typed) := by
  obtain ⟨weave, spelled, isCut⟩ := yields_sanitizeMasked type.isInline_policy
    (Weave.isFine_ofText text type.policy.keepsFormatting) (Weave.spelling_ofText _ _)
  obtain ⟨reading, sameText, hasMarks, areMade, notSpelled⟩ := Weave.exists_reading
    (fun _ member => (isMark_of_mem_mask member).ne_nil) weave isCut.isMasked.marks
  have isMasked : reading.IsMasked text type.policy.keepsFormatting :=
    ⟨hasMarks, fun made member => isCut.made made (areMade made member)⟩
  have restored : type.sanitizeText text = reading.restored := by
    rw [sanitizeText, ContentPolicy.sanitize, ← spelled, ← sameText]
    exact isMasked.restore_spelling_mask notSpelled
  refine ⟨reading, sameText.trans spelled, ?_, restored, ?_, ?_, ?_⟩
  · exact fun entry member => (isMasked.standsAtMark_iff member).mpr (notSpelled entry member)
  · rw [restored, Weave.findAll_restored hasMarks, List.forall_mem_flatMap]
  · rw [restored]
    exact Weave.isKnown_of_noBrace hasMarks
  · rw [sameText]
    exact mem_typed_of_isCut isCut

/-- Cutting the unknown token out of this text joins another one. -/
theorem BlockType.token_joined :
    ¬ ∀ body ∈ bodyPattern.findAll
        (BlockType.paragraph.sanitizeText "\x7b\x7bevil\x7d\x7b\x7bx\x7d\x7d\x7d"),
      IsKnown BlockType.paragraph.policy.keepsFormatting body := by
  intro known
  have isFound : ("evil" : Text) ∈ bodyPattern.findAll
      (BlockType.paragraph.sanitizeText "\x7b\x7bevil\x7d\x7b\x7bx\x7d\x7d\x7d") := by
    decide +kernel
  cases known _ isFound with
  | personal isName => exact absurd isName (by decide)
  | closer _ kind isName =>
      revert isName
      cases kind <;> decide
  | opener _ kind spec _ shape =>
      have noColon : ':' ∉ ("evil" : Text) := by
        decide
      exact noColon (by simp [shape])

end EmailComposer
