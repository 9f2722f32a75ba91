import EmailComposer.Proofs.Content.WovenPlain
import EmailComposer.Proofs.Token.Refill

namespace EmailComposer

/-!
# Placeholders and typed text

The stem of the placeholders does not occur in the text that is masked, but sanitizing joins
characters that stood apart. A placeholder is taken for the mark it is not exactly where
typed characters that were joined so spell it out; everywhere else each token comes back in
the place where it was.
-/

open EmailComposer.Text
open EmailComposer.Markup
open EmailComposer.Token

/--
A sanitized masked text is a weave cut from the masked text. Every placeholder occurs in it
at most once, where the token it stands for was, exactly if joined typed characters spell
none of them out. Putting the tokens back then fills the marks and changes nothing that was
typed. No text can go wrong whose plain characters do not hold the stem, even with others
between its letters.
-/
theorem BlockType.placeholders_standAtMark_iff
    (type : BlockType)
    (text : Text) :
    ∃ weave : Weave,
      weave.spelling =
          (type.policy.sanitizeMasked (mask text type.policy.keepsFormatting)).html ∧
        weave.IsCut IsMade (Weave.ofText text type.policy.keepsFormatting) ∧
        ((∀ entry ∈ (mask text type.policy.keepsFormatting).placeholders,
            weave.StandsAtMark entry ∧ OccursAtMostOnce entry.1 weave.spelling) ↔
          ∀ entry ∈ (mask text type.policy.keepsFormatting).placeholders,
            ¬ weave.SpellsOut entry) ∧
        ((∀ entry ∈ (mask text type.policy.keepsFormatting).placeholders,
            ¬ weave.SpellsOut entry) →
          type.sanitizeText text = weave.restored) ∧
        (¬ (stemFor text).Sublist (Weave.ofText text type.policy.keepsFormatting).typed →
          ∀ entry ∈ (mask text type.policy.keepsFormatting).placeholders,
            ¬ weave.SpellsOut entry) := by
  obtain ⟨weave, spelled, isCut⟩ := yields_sanitizeMasked type.isInline_policy
    (Weave.isFine_ofText text type.policy.keepsFormatting) (Weave.spelling_ofText _ _)
  have isMasked := isCut.isMasked
  refine ⟨weave, spelled, isCut, ⟨?_, ?_⟩, ?_, ?_⟩
  · exact fun stand entry member => (isMasked.standsAtMark_iff member).mp (stand entry member).1
  · intro notSpelled entry member
    have standsAtMark := (isMasked.standsAtMark_iff member).mpr (notSpelled entry member)
    exact ⟨standsAtMark, standsAtMark.occursAtMostOnce isCut.nodup_marks⟩
  · intro notSpelled
    rw [sanitizeText, ContentPolicy.sanitize, ← spelled]
    exact isMasked.restore_spelling_mask notSpelled
  · intro notTyped entry member spellsOut
    have stemPrefix := stem_prefix_of_mem_mask text type.policy.keepsFormatting entry member
    exact notTyped (stemPrefix.sublist.trans (isCut.sublist_of_spellsOut spellsOut))

/-- Cutting the unknown token out of this text joins a placeholder in front of the one that
was put there. -/
theorem BlockType.placeholder_joined :
    ¬ ∀ entry ∈ (mask "0mbto\x7b\x7bbad\x7d\x7dken0z\x7b\x7bfirstName\x7d\x7d"
          BlockType.paragraph.policy.keepsFormatting).placeholders,
      OccursAtMostOnce entry.1
        (BlockType.paragraph.policy.sanitizeMasked
          (mask "0mbto\x7b\x7bbad\x7d\x7dken0z\x7b\x7bfirstName\x7d\x7d"
            BlockType.paragraph.policy.keepsFormatting)).html := by
  intro atMostOnce
  have isEntry : (("0mbtoken0z", "\x7b\x7bfirstName\x7d\x7d") : Placeholder) ∈
      (mask "0mbto\x7b\x7bbad\x7d\x7dken0z\x7b\x7bfirstName\x7d\x7d"
        BlockType.paragraph.policy.keepsFormatting).placeholders := by
    decide +kernel
  have twice : (BlockType.paragraph.policy.sanitizeMasked
      (mask "0mbto\x7b\x7bbad\x7d\x7dken0z\x7b\x7bfirstName\x7d\x7d"
        BlockType.paragraph.policy.keepsFormatting)).html =
      ([] : Text) ++ ("0mbtoken0z" ++ "0mbtoken0z") := by
    decide +kernel
  have samePlace := atMostOnce _ isEntry [] "0mbtoken0z" "0mbtoken0z" [] twice
    (by rw [twice, List.nil_append, List.append_nil])
  exact absurd samePlace (by decide)

end EmailComposer
