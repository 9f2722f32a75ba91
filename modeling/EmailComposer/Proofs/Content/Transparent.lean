import EmailComposer.Proofs.Content.Policy
import EmailComposer.Proofs.Token.Kept

namespace EmailComposer

/-!
# Text that sanitizing only escapes

A text without opening brackets and with known tokens only loses nothing: what stands
between its tokens is escaped and the tokens stay where they are, whatever the text looks
like.
-/

open EmailComposer.Text
open EmailComposer.Markup
open EmailComposer.Token

namespace ContentPolicy

/-- Masking brings no opening bracket into a text. -/
theorem noBracket_mask
    {text : Text}
    (noBracket : '<' ∉ text)
    (keepsFormatting : Bool) :
    '<' ∉ (mask text keepsFormatting).text := by
  intro member
  rcases mem_maskFrom (isMark_stemFor text) member with inText | isAlphanumeric
  · exact noBracket inText
  · exact absurd isAlphanumeric (by decide)

/-- A policy that allows tags escapes a text without opening brackets and puts its tokens
back. -/
theorem html_sanitize_of_noBracket
    {policy : ContentPolicy}
    (allowsTags : policy.allowedTags ≠ [])
    {text : Text}
    (noBracket : '<' ∉ text) :
    (policy.sanitize text).html =
      restore (escape (mask text policy.keepsFormatting).text)
        (mask text policy.keepsFormatting).placeholders := by
  have masked : (policy.sanitizeMasked (mask text policy.keepsFormatting)).html =
      escape (mask text policy.keepsFormatting).text := by
    rw [sanitizeMasked, if_neg (by simpa using allowsTags)]
    exact html_sanitizeDetailed_of_noBracket (noBracket_mask noBracket policy.keepsFormatting)
  rw [sanitize, masked]

end ContentPolicy

/--
A title, a paragraph or a box whose text has no opening bracket and known tokens only is
the text itself, cut at its tokens, with every gap escaped and every token kept.
-/
theorem BlockType.sanitizeText_transparent
    {type : BlockType}
    (isRich : type ∈ [BlockType.title, .paragraph, .highlightBox])
    {text : Text}
    (noBracket : '<' ∉ text)
    (known : ∀ body ∈ bodyPattern.findAll text, IsKnown type.policy.keepsFormatting body) :
    (TokenCut.ofText text).join id braced = text ∧
      type.sanitizeText text = (TokenCut.ofText text).join escape keptToken := by
  have allowsTags : ∀ rich ∈ [BlockType.title, .paragraph, .highlightBox],
      rich.policy.allowedTags ≠ [] := by
    decide
  refine ⟨TokenCut.join_ofText text, ?_⟩
  rw [sanitizeText, ContentPolicy.html_sanitize_of_noBracket (allowsTags type isRich) noBracket]
  exact restore_escape_mask known

/-- A text that looks like it held placeholders, right beside its tokens. -/
def lookalikeText : Text :=
  "0mbtoken0z\x7b\x7bfirstName\x7d\x7d0mbtoken & " ++
    "\x7b\x7bbold:\"#fff\"\x7d\x7dx\x7b\x7b/bold\x7d\x7d"

theorem BlockType.sanitizeText_transparent_of_lookalike :
    '<' ∉ lookalikeText ∧
      (∀ body ∈ bodyPattern.findAll lookalikeText, IsKnown true body) ∧
        (TokenCut.ofText lookalikeText).join id braced = lookalikeText ∧
          BlockType.paragraph.sanitizeText lookalikeText =
            ("0mbtoken0z\x7b\x7bfirstName\x7d\x7d0mbtoken &amp; " ++
              "\x7b\x7bbold:&quot;#fff&quot;\x7d\x7dx\x7b\x7b/bold\x7d\x7d" : Text) := by
  have isRich : BlockType.paragraph ∈ [BlockType.title, .paragraph, .highlightBox] := by
    decide
  have noBracket : '<' ∉ lookalikeText := by decide
  have bodies : bodyPattern.findAll lookalikeText =
      [("firstName" : Text), ("bold:\"#fff\"" : Text), ("/bold" : Text)] := by
    decide +kernel
  have known : ∀ body ∈ bodyPattern.findAll lookalikeText, IsKnown true body := by
    rw [bodies, List.forall_mem_cons, List.forall_mem_cons, List.forall_mem_singleton]
    exact ⟨.personal (by decide), .opener rfl .bold "\"#fff\"" (by decide) rfl,
      .closer rfl .bold (by decide)⟩
  obtain ⟨isWhole, isSanitized⟩ := sanitizeText_transparent isRich noBracket known
  exact ⟨noBracket, known, isWhole, isSanitized.trans (by decide +kernel)⟩

end EmailComposer
