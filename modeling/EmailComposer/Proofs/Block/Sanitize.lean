import EmailComposer.Block.Sanitize
import EmailComposer.Proofs.Markup.Plain

namespace EmailComposer

/-!
# Sanitizing a block, and again

A block is refused exactly if its URL cannot be used, and with the URL left alone it never is.
A stored block has been sanitized already. Its URL is accepted again, so what becomes of it
is decided by its text: the label of a button and the alternative text of an image stay as
they are unless their plain text holds a slash or a form feed.
-/

open EmailComposer.Text
open EmailComposer.Markup

namespace Block

/-- The block is a button or an image whose URL fails its check. -/
def hasUnusableUrl : Block → Bool
  | .button block => !Url.isUsable false block.href
  | .image block => !Url.isUsable true block.src
  | _ => false

/-- What is said about the URL of a button or an image that cannot be used. -/
def urlComplaint : Block → Text
  | .button block =>
      "Invalid URL in button in block " ++ quoted block.id ++ ": " ++ quoted block.href
  | .image block =>
      "Invalid HTTPS URL for image in block " ++ quoted block.id ++ ": " ++ quoted block.src
  | _ => []

/-- Sanitizing a block leaves its URL as it is. -/
@[simp] theorem hasUnusableUrl_sanitizeContent
    (block : Block) :
    block.sanitizeContent.hasUnusableUrl = block.hasUnusableUrl := by
  cases block <;> rfl

/-- A block with a usable URL, or with none, is not rejected. -/
theorem urlRejection?_of_usable
    {block : Block}
    (usable : block.hasUnusableUrl = false) :
    block.urlRejection? = none := by
  cases block with
  | button button =>
      have isUsable : Url.isUsable false button.href = true := by
        simpa [hasUnusableUrl] using usable
      exact if_pos isUsable
  | image image =>
      have isUsable : Url.isUsable true image.src = true := by
        simpa [hasUnusableUrl] using usable
      exact if_pos isUsable
  | _ => rfl

/-- A block with an unusable URL is rejected, and the rejection names both. -/
theorem exists_urlRejection?_of_unusable
    {block : Block}
    (unusable : block.hasUnusableUrl = true) :
    ∃ rejection,
      block.urlRejection? = some rejection ∧ rejection.blockId = block.id ∧
        rejection.message = block.urlComplaint := by
  cases block with
  | button button =>
      have notUsable : ¬ Url.isUsable false button.href = true := by
        simpa [hasUnusableUrl] using unusable
      exact ⟨_, if_neg notUsable, rfl, rfl⟩
  | image image =>
      have notUsable : ¬ Url.isUsable true image.src = true := by
        simpa [hasUnusableUrl] using unusable
      exact ⟨_, if_neg notUsable, rfl, rfl⟩
  | _ => cases unusable

/-- With the URL left alone every block is sanitized. -/
theorem sanitizeWith_false
    (block : Block) :
    block.sanitizeWith false = .ok block.sanitizeContent := by
  unfold sanitizeWith
  split
  · rfl
  · rfl

/-- A block with a usable URL is sanitized, however strictly. -/
theorem sanitizeWith_of_usable
    {block : Block}
    (strictUrls : Bool)
    (usable : block.hasUnusableUrl = false) :
    block.sanitizeWith strictUrls = .ok block.sanitizeContent := by
  rw [sanitizeWith, urlRejection?_of_usable usable]

/-- Any other block is refused when URLs are strict. -/
theorem exists_sanitizeWith_true_of_unusable
    {block : Block}
    (unusable : block.hasUnusableUrl = true) :
    ∃ rejection,
      block.sanitizeWith true = .error rejection ∧ rejection.blockId = block.id ∧
        rejection.message = block.urlComplaint := by
  obtain ⟨rejection, isRejected, names⟩ := exists_urlRejection?_of_unusable unusable
  refine ⟨rejection, ?_, names⟩
  rw [sanitizeWith, isRejected]
  rfl

/-- A block that is sanitized strictly has a usable URL, or none. -/
theorem hasUnusableUrl_of_sanitize
    {block sanitized : Block}
    (isSanitized : block.sanitize = .ok sanitized) :
    block.hasUnusableUrl = false := by
  rw [← Bool.not_eq_true]
  intro unusable
  obtain ⟨rejection, isRefused, _⟩ := exists_sanitizeWith_true_of_unusable unusable
  cases isRefused.symm.trans isSanitized

/-- Strict sanitizing gives what lenient sanitizing does, if it gives anything. -/
theorem eq_sanitizeContent_of_sanitize
    {block sanitized : Block}
    (isSanitized : block.sanitize = .ok sanitized) :
    block.sanitizeContent = sanitized := by
  have isSame := sanitizeWith_of_usable true (hasUnusableUrl_of_sanitize isSanitized)
  exact Except.ok.inj (isSame.symm.trans isSanitized)

/-- The field of a button or an image that holds plain text. -/
def plainSource? : Block → Option Text
  | .button block => some block.label
  | .image block => some block.alt
  | _ => none

/-- A button or an image with sanitized plain text is not changed by sanitizing it exactly if
the plain text is not. -/
theorem sanitizeContent_sanitizeContent_eq_iff
    {block : Block}
    {text : Text}
    (isSource : block.plainSource? = some text) :
    block.sanitizeContent.sanitizeContent = block.sanitizeContent ↔
      plainField (plainField text) = plainField text := by
  cases block with
  | button block =>
      obtain rfl := Option.some.inj isSource
      simp [sanitizeContent]
  | image block =>
      obtain rfl := Option.some.inj isSource
      simp [sanitizeContent]
  | title => cases isSource
  | paragraph => cases isSource
  | divider => cases isSource
  | highlightBox => cases isSource

/-- What has been sanitized is accepted again. -/
theorem sanitize_sanitized
    {block sanitized : Block}
    (isSanitized : block.sanitize = .ok sanitized) :
    sanitized.sanitize = .ok sanitized.sanitizeContent := by
  have usable := hasUnusableUrl_of_sanitize isSanitized
  obtain rfl := eq_sanitizeContent_of_sanitize isSanitized
  exact sanitizeWith_of_usable true (by rw [hasUnusableUrl_sanitizeContent, usable])

/--
A plain field is not changed by sanitizing it again exactly if its plain text holds neither a
slash nor a form feed; and exactly then sanitizing gives a sanitized button or image back as
it is.
-/
theorem plain_fields_stable_iff
    (text : Text) :
    (plainField (plainField text) = plainField text ↔
        ReturnsWhole (strip (plainText text))) ∧
      ∀ block sanitized : Block,
        block.plainSource? = some text →
          block.sanitize = .ok sanitized →
          (sanitized.sanitize = .ok sanitized ↔ ReturnsWhole (strip (plainText text))) := by
  refine ⟨plainField_plainField_eq_iff text, fun block sanitized isSource isSanitized => ?_⟩
  rw [sanitize_sanitized isSanitized, Except.ok.injEq,
    ← eq_sanitizeContent_of_sanitize isSanitized, sanitizeContent_sanitizeContent_eq_iff isSource]
  exact plainField_plainField_eq_iff text

/-- The slash of this label is escaped once more whenever the label is sanitized. -/
theorem slash_escaped_again :
    ¬ ∀ text, plainField (plainField text) = plainField text := by
  intro stable
  have same := stable "a/b"
  revert same
  decide +kernel

end Block

end EmailComposer
